/-
# The client side of `nethttp.Transport`

`Transport.doRoundTrip` (`src/instrumentation/nethttp/client.go`, lines 170-222) starts a
client span and tags it, lets the wrapped `RoundTripper` make the round trip and, with payload
instrumentation on, reads the first chunk of the response body (`getResponsePayload`, lines
244-265) and splices it back in front of the body with `io.MultiReader`.  Unless the round
trip failed or the method is `HEAD`, it then wraps the body in a `closeTracker` (lines
133-143), whose `Close` closes the body, logs `ClosedBody` and finishes the span.

What the caller holds as `resp.Body` is a tree of wrappers around the transport's body
(`ReadCloser`), which it reads and closes in any order while the client-trace hooks go on
logging on the span (`CallerState.step`, `CallerState.run`).

* Every wrapper serves the bytes of the body it wraps and then its terminal result
  (`honest_readCloser`), and the splice puts back exactly the bytes it took
  (`getResponsePayload_content`), so a caller reading the returned body gets the transport's
  body unchanged, whatever the chunk and the buffer size (`drain_doRoundTrip`); each `Close`
  closes the transport's body once (`close_closes`).
* A `Close` finishes the span once per `closeTracker` it passes through (`finishes_close`),
  reads and hooks finish nothing, and so over a run the span is finished once per `Close`
  (`CallerState.run_spec`): nothing guards a second `Close` (`finishes_spanAfter`).
-/

import ScopeAgent.Go.MultiReader
import ScopeAgent.Go.Unicode
import ScopeAgent.Nethttp.ClientTrace

namespace ScopeAgent
namespace Nethttp

open Io

/-! ## Bodies as the caller holds them -/

/-- The body a `RoundTripper` returns, never nil ("The http Client and Transport guarantee
that Body is always non-nil"): `http.NoBody`, or a body. -/
inductive RespBody
  | noBody
  | body (b : Body)
  deriving DecidableEq, Repr

/-- What the caller holds as `resp.Body`: the transport's body, the struct `{io.Reader;
io.Closer}` that `getResponsePayload` makes of `io.MultiReader(bytes.NewReader(buf),
resp.Body)` and `resp.Body`, or a `closeTracker` around either. -/
inductive ReadCloser
  | orig (b : RespBody)
  | spliced (rs : List Source)
  | tracked (inner : ReadCloser)
  deriving DecidableEq, Repr

/-- `resp.Body.Read(p)` with `len(p) = n`; `http.NoBody` reads `(0, io.EOF)`. -/
def ReadCloser.read : ReadCloser → Nat → Bytes × Option ReadError × ReadCloser
  | .orig .noBody, _ => ([], some .eof, .orig .noBody)
  | .orig (.body b), n => match b.read n with | (got, err, b) => (got, err, .orig (.body b))
  | .spliced rs, n => match multiRead rs n with | (got, err, rs) => (got, err, .spliced rs)
  | .tracked inner, n => match inner.read n with | (got, err, inner) => (got, err, .tracked inner)

/-- `resp.Body.Close()`, from the calls made on the span and the number of times the
transport's body has been closed: the struct closes its `io.Closer`, the transport's body;
`closeTracker.Close` closes what it wraps, then logs and finishes the span. -/
def ReadCloser.close : ReadCloser → List SpanEvent → Nat → List SpanEvent × Nat
  | .orig _, evs, c => (evs, c + 1)
  | .spliced _, evs, c => (evs, c + 1)
  | .tracked inner, evs, c =>
    match inner.close evs c with
    | (evs, c) => (evs ++ [logEvent (lit "ClosedBody"), .finish], c)

/-- The bytes a body has left. -/
def ReadCloser.content : ReadCloser → Bytes
  | .orig .noBody => []
  | .orig (.body b) => b.rest
  | .spliced rs => spliceContent rs
  | .tracked inner => inner.content

/-- The result it ends with. -/
def ReadCloser.term : ReadCloser → ReadError
  | .orig .noBody => .eof
  | .orig (.body b) => b.term
  | .spliced rs => spliceTerm rs
  | .tracked inner => inner.term

/-- The splice has the shape `getResponsePayload` gives it. -/
def ReadCloser.WellFormed : ReadCloser → Prop
  | .orig _ => True
  | .spliced rs => Spliced rs
  | .tracked inner => inner.WellFormed

/-- The number of `closeTracker`s around the transport's body. -/
def ReadCloser.trackers : ReadCloser → Nat
  | .orig _ => 0
  | .spliced _ => 0
  | .tracked inner => inner.trackers + 1

/-- A wrapper that reads as the reader it wraps, and has its content, result and shape, reads
honestly where that reader does. -/
theorem HonestRead.map {σ τ : Type} {read : σ → Nat → Bytes × Option ReadError × σ}
    {read' : τ → Nat → Bytes × Option ReadError × τ} {content : σ → Bytes} {content' : τ → Bytes}
    {term : σ → ReadError} {term' : τ → ReadError} {inv : σ → Prop} {inv' : τ → Prop}
    (f : σ → τ) (hc : ∀ s, content' (f s) = content s) (ht : ∀ s, term' (f s) = term s)
    (hi : ∀ s, inv' (f s) ↔ inv s) {r : σ} {n : Nat}
    (hr : read' (f r) n = ((read r n).1, (read r n).2.1, f (read r n).2.2))
    (h : HonestRead read content term inv r n) : HonestRead read' content' term' inv' (f r) n := by
  obtain ⟨hinv, hcon, hterm, hprog, herr⟩ := h
  unfold HonestRead
  simp only [hr, hc, ht, hi]
  exact ⟨hinv, hcon, hterm, hprog, herr⟩

/-- **Every body the caller can hold serves its bytes, then its terminal result.** -/
theorem honest_readCloser :
    Honest ReadCloser.read ReadCloser.content ReadCloser.term ReadCloser.WellFormed := by
  intro rc n hwf hn
  induction rc with
  | orig b =>
    cases b with
    | noBody =>
      simp [HonestRead, ReadCloser.read, ReadCloser.content, ReadCloser.term, ReadCloser.WellFormed]
    | body b =>
      exact HonestRead.map (fun b => ReadCloser.orig (.body b)) (fun _ => rfl) (fun _ => rfl)
        (fun _ => Iff.rfl) rfl (honest_body b n trivial hn)
  | spliced rs =>
    exact HonestRead.map ReadCloser.spliced (fun _ => rfl) (fun _ => rfl) (fun _ => Iff.rfl) rfl
      (honest_multiRead rs n hwf hn)
  | tracked inner ih =>
    exact HonestRead.map ReadCloser.tracked (fun _ => rfl) (fun _ => rfl) (fun _ => Iff.rfl) rfl
      (ih hwf)

/-- **Each `Close` closes the transport's body exactly once**, through any wrappers. -/
theorem close_closes (rc : ReadCloser) (evs : List SpanEvent) (c : Nat) :
    (rc.close evs c).2 = c + 1 := by
  induction rc generalizing evs c with
  | orig => rfl
  | spliced => rfl
  | tracked inner ih => simp only [ReadCloser.close, ih]

/-- Each `Close` finishes the span once per `closeTracker`, and makes no other `Finish`. -/
theorem finishes_close (rc : ReadCloser) (evs : List SpanEvent) (c : Nat) :
    finishes (rc.close evs c).1 = finishes evs + rc.trackers := by
  induction rc generalizing evs c with
  | orig => rfl
  | spliced => rfl
  | tracked inner ih =>
    simp only [ReadCloser.close, finishes_append, ih, ReadCloser.trackers, finishes_cons_logEvent,
      finishes_cons_finish, finishes_nil]
    omega

/-- A read keeps the wrappers. -/
@[simp] theorem trackers_read (rc : ReadCloser) (n : Nat) : (rc.read n).2.2.trackers = rc.trackers := by
  induction rc with
  | orig b => cases b <;> rfl
  | spliced => rfl
  | tracked inner ih => simp only [ReadCloser.read, ReadCloser.trackers, ih]

/-! ## The caller's reads and closes -/

/-- What happens to `resp.Body` and the span once `doRoundTrip` has returned: the caller reads
or closes the body, or the transport calls a hook (`PutIdleConn` comes after the body is
read). -/
inductive Op
  | read (n : Nat)
  | close
  | hook (h : Hook)
  deriving DecidableEq, Repr

/-- The caller's body, the calls made on the client span, and the number of times the
transport's body has been closed. -/
structure CallerState where
  body : ReadCloser
  events : List SpanEvent
  closes : Nat
  deriving DecidableEq, Repr

section Run

variable (parseIPv6 : Bytes → Net.IP)

/-- One operation. -/
def CallerState.step (s : CallerState) : Op → CallerState
  | .read n => { s with body := (s.body.read n).2.2 }
  | .close => match s.body.close s.events s.closes with | (evs, c) => ⟨s.body, evs, c⟩
  | .hook h => { s with events := s.events ++ h.events parseIPv6 }

/-- The operations in turn. -/
def CallerState.run (s : CallerState) (ops : List Op) : CallerState :=
  ops.foldl (CallerState.step parseIPv6) s

/-- One step keeps the wrappers, finishes the span once per `closeTracker` at a `Close`, and
closes the transport's body once at a `Close`. -/
theorem CallerState.step_spec (s : CallerState) (op : Op) :
    (s.step parseIPv6 op).body.trackers = s.body.trackers ∧
      finishes (s.step parseIPv6 op).events =
        finishes s.events + (if op = .close then s.body.trackers else 0) ∧
      (s.step parseIPv6 op).closes = s.closes + (if op = .close then 1 else 0) := by
  cases op with
  | read n => simp [step]
  | close => simp [step, finishes_close, close_closes]
  | hook h => simp [step, finishes_hook]

/-- **Over a run, the span is finished once per `closeTracker` at every `Close`**, and the
transport's body is closed once at every `Close`. -/
theorem CallerState.run_spec (s : CallerState) (ops : List Op) :
    finishes (s.run parseIPv6 ops).events = finishes s.events + s.body.trackers * ops.count .close ∧
      (s.run parseIPv6 ops).closes = s.closes + ops.count .close := by
  induction ops generalizing s with
  | nil => simp [run]
  | cons op ops ih =>
    obtain ⟨hb, hf, hc⟩ := s.step_spec parseIPv6 op
    obtain ⟨ihf, ihc⟩ := ih (s.step parseIPv6 op)
    have hrun : s.run parseIPv6 (op :: ops) = (s.step parseIPv6 op).run parseIPv6 ops := rfl
    have hcount : (op :: ops).count .close = ops.count .close + (if op = .close then 1 else 0) := by
      by_cases hop : op = .close <;> simp [hop, List.count_cons]
    rw [hrun, ihf, ihc, hb, hf, hc, hcount, Nat.mul_add]
    split_ifs <;> omega

end Run

/-! ## `doRoundTrip` -/

/-- The fields of `Transport` that `doRoundTrip` reads besides the `RoundTripper`. -/
structure Transport where
  payloadInstrumentation : Bool
  deriving DecidableEq, Repr

/-- The fields of `clientOptions` that `doRoundTrip` reads: the component name, and the calls
the span observer makes on the span. -/
structure ClientOptions where
  componentName : Bytes
  spanObserver : List SpanEvent
  deriving DecidableEq, Repr

/-- The options `TraceRequest` makes when it is given none: no component name, and an
observer that does nothing. -/
def ClientOptions.default : ClientOptions := ⟨[], []⟩

/-- The fields of `http.Request` that `doRoundTrip` reads. -/
structure Request where
  method : Bytes
  /-- `req.URL.String()` -/
  url : Bytes
  /-- `req.URL.Path` -/
  path : Bytes
  /-- `req.Body != nil && req.Body != http.NoBody` -/
  hasBody : Bool
  /-- `req.GetBody`: nil, or what calling it returns -/
  getBody : Option (Except Nat Body)

/-- The response of the wrapped `RoundTripper`. -/
structure TransportResponse where
  statusCode : Nat
  body : RespBody
  deriving DecidableEq, Repr

/-- The response `doRoundTrip` returns. -/
structure Response where
  statusCode : Nat
  body : ReadCloser
  deriving DecidableEq, Repr

/-- `string(bytes.Runes(buf))`: the bytes decoded as runes and encoded again, each invalid
sequence becoming `U+FFFD`. -/
def runesToString (buf : Bytes) : Bytes := (Utf8.runes buf).flatMap Utf8.encodeRune

/-- `getRequestPayload(req, bufferSize)`: one `Read` of `bufferSize` bytes from a fresh copy of
the body, kept when it returns bytes and no error.  The buffer cut to `len` is the bytes read,
whether or not they fill it. -/
def getRequestPayload (req : Request) (bufferSize : Nat) : Bytes :=
  if req.hasBody then
    match req.getBody with
    | some (.ok rqBody) =>
      match rqBody.read bufferSize with
      | (got, none, _) => if 0 < got.length then runesToString got else []
      | _ => []
    | _ => []
  else []

/-- `getResponsePayload(resp, bufferSize)`: the payload, and `resp.Body` after it.  One `Read`
of `bufferSize` bytes, whose error is dropped; when it returns bytes, they are spliced back in
front of the body. -/
def getResponsePayload (body : RespBody) (bufferSize : Nat) : Bytes × ReadCloser :=
  match body with
  | .noBody => ([], .orig .noBody)
  | .body b =>
    match b.read bufferSize with
    | (got, _, b') =>
      if 0 < got.length then (runesToString got, .spliced [.bytes ⟨got, 0⟩, .body b'])
      else ([], .orig (.body b'))

/-- Lines 200-205 of `doRoundTrip`: the response payload, and `resp.Body` after it, untouched
when payload instrumentation is off. -/
def responsePayload (t : Transport) (body : RespBody) (bufferSize : Nat) : Bytes × ReadCloser :=
  if t.payloadInstrumentation then getResponsePayload body bufferSize else ([], .orig body)

/-- The payload tag of either side: the payload when payload instrumentation is on,
`"disabled"` under the `.unavailable` key otherwise. -/
def payloadTag (enabled : Bool) (key keyUnavailable payload : Bytes) : SpanEvent :=
  if enabled then .setTag (.named key) (.str payload) else .setTag (.named keyUnavailable) (.str (lit "disabled"))

/-- `tracer.start(req)`: the span `"HTTP " + req.Method`, tagged as an RPC client of the
component (`"net/http"` when none is named). -/
def start (opts : ClientOptions) (req : Request) : ClientSpan :=
  ⟨lit "HTTP " ++ req.method,
    [.setTag .spanKind (.str (lit "client")),
      .setTag .component (.str (if opts.componentName = [] then lit "net/http" else opts.componentName))]⟩

section RoundTrip

variable (parseIPv6 : Bytes → Net.IP)

/-- `t.doRoundTrip(req)` on a traced request, with `payloadBufferSize = bufferSize`, `trace`
the hooks the transport calls during the round trip, and `rt` the result of the wrapped
`rt.RoundTrip(req)`: the result returned, and the client span. -/
def doRoundTrip (t : Transport) (bufferSize : Nat) (opts : ClientOptions) (req : Request)
    (trace : List Hook) (rt : Except Nat TransportResponse) : Except Nat Response × ClientSpan :=
  let sp := start opts req
  let evs := sp.events ++ [.setTag .httpMethod (.str req.method), .setTag .httpUrl (.str req.url)] ++
    opts.spanObserver ++
    [payloadTag t.payloadInstrumentation (lit "http.request_payload")
      (lit "http.request_payload.unavailable") (getRequestPayload req bufferSize)] ++
    trace.flatMap (Hook.events parseIPv6)
  match rt with
  | .error e =>
    (.error e, ⟨sp.operationName, evs ++
      [payloadTag t.payloadInstrumentation (lit "http.response_payload")
        (lit "http.response_payload.unavailable") [], .finish]⟩)
  | .ok resp =>
    let (rsPayload, body) := responsePayload t resp.body bufferSize
    let evs := evs ++
      [payloadTag t.payloadInstrumentation (lit "http.response_payload")
        (lit "http.response_payload.unavailable") rsPayload,
        .setTag .httpStatusCode (.uint16 (resp.statusCode % 2 ^ 16))] ++
      (if 400 ≤ resp.statusCode then [.setTag .error (.bool true)] else []) ++
      [.setTag .peerService (.str req.path)]
    if req.method = lit "HEAD" then (.ok ⟨resp.statusCode, body⟩, ⟨sp.operationName, evs ++ [.finish]⟩)
    else (.ok ⟨resp.statusCode, .tracked body⟩, ⟨sp.operationName, evs⟩)

/-- `t.RoundTrip(req)`: outside an active trace the `RoundTripper`'s result, untouched;
inside one, `TraceRequest` with no options and `doRoundTrip`. -/
def roundTrip (t : Transport) (bufferSize : Nat) (hasParent : Bool) (req : Request)
    (trace : List Hook) (rt : Except Nat TransportResponse) : Except Nat Response × Option ClientSpan :=
  if hasParent then
    match doRoundTrip parseIPv6 t bufferSize ClientOptions.default req trace rt with
    | (res, sp) => (res, some sp)
  else (rt.map fun resp => ⟨resp.statusCode, .orig resp.body⟩, none)

end RoundTrip

/-! ## What the caller reads -/

/-- **The splice puts back exactly the bytes it took**: after `getResponsePayload`, the body
has the transport body's bytes and result left, whatever the first read returned. -/
theorem getResponsePayload_content (b : Body) (bufferSize : Nat) :
    (getResponsePayload (.body b) bufferSize).2.content = b.rest ∧
      (getResponsePayload (.body b) bufferSize).2.term = b.term ∧
      (getResponsePayload (.body b) bufferSize).2.WellFormed := by
  obtain ⟨hc, ht⟩ := b.read_split bufferSize
  rcases hread : b.read bufferSize with ⟨got, err, b'⟩
  rw [hread] at hc ht
  simp only [getResponsePayload, hread]
  split_ifs with hgot
  · refine ⟨?_, ht, .inr (.inr ⟨_, _, rfl⟩)⟩
    simp [ReadCloser.content, spliceContent, Source.content, hc]
  · obtain rfl : got = [] := List.eq_nil_of_length_eq_zero (by omega)
    exact ⟨hc.symm, ht, trivial⟩

/-- `responsePayload` leaves the transport's body without a `closeTracker`. -/
@[simp] theorem trackers_responsePayload (t : Transport) (body : RespBody) (bufferSize : Nat) :
    (responsePayload t body bufferSize).2.trackers = 0 := by
  unfold responsePayload
  split_ifs
  · cases body with
    | noBody => rfl
    | body b =>
      simp only [getResponsePayload]
      split_ifs <;> rfl
  · rfl

/-- After `responsePayload`, the body has the transport body's bytes and result left. -/
theorem responsePayload_content (t : Transport) (b : Body) (bufferSize : Nat) :
    (responsePayload t (.body b) bufferSize).2.content = b.rest ∧
      (responsePayload t (.body b) bufferSize).2.term = b.term ∧
      (responsePayload t (.body b) bufferSize).2.WellFormed := by
  unfold responsePayload
  split_ifs
  · exact getResponsePayload_content b bufferSize
  · exact ⟨rfl, rfl, trivial⟩

@[simp] theorem finishes_cons_payloadTag (enabled : Bool) (key keyUnavailable payload : Bytes)
    (evs : List SpanEvent) :
    finishes (payloadTag enabled key keyUnavailable payload :: evs) = finishes evs := by
  unfold payloadTag
  split_ifs <;> simp

section RoundTrip

variable (parseIPv6 : Bytes → Net.IP)

@[simp] theorem finishes_flatMap_hook (trace : List Hook) :
    finishes (trace.flatMap (Hook.events parseIPv6)) = 0 := by
  induction trace with
  | nil => rfl
  | cons h trace ih => simp [List.flatMap_cons, finishes_hook, ih]

/-- **On a response, `doRoundTrip` returns the body `responsePayload` leaves, in a
`closeTracker` unless the method is `HEAD`**, and finishes the span itself only for `HEAD`. -/
theorem doRoundTrip_ok (t : Transport) (bufferSize : Nat) (opts : ClientOptions) (req : Request)
    (trace : List Hook) (resp : TransportResponse) :
    (doRoundTrip parseIPv6 t bufferSize opts req trace (.ok resp)).1 =
        .ok ⟨resp.statusCode, if req.method = lit "HEAD" then (responsePayload t resp.body bufferSize).2
          else .tracked (responsePayload t resp.body bufferSize).2⟩ ∧
      finishes (doRoundTrip parseIPv6 t bufferSize opts req trace (.ok resp)).2.events =
        finishes opts.spanObserver + (if req.method = lit "HEAD" then 1 else 0) := by
  have herror : finishes (if 400 ≤ resp.statusCode then [.setTag .error (.bool true)] else []) = 0 := by
    split_ifs <;> rfl
  simp only [doRoundTrip]
  split_ifs <;> simp [start, herror]

/-- On an error, `doRoundTrip` returns it and finishes the span once itself. -/
theorem doRoundTrip_error (t : Transport) (bufferSize : Nat) (opts : ClientOptions) (req : Request)
    (trace : List Hook) (e : Nat) :
    (doRoundTrip parseIPv6 t bufferSize opts req trace (.error e)).1 = .error e ∧
      finishes (doRoundTrip parseIPv6 t bufferSize opts req trace (.error e)).2.events =
        finishes opts.spanObserver + 1 := by
  simp [doRoundTrip, start]

/-- **A caller reading the body `doRoundTrip` returns gets the transport body's bytes and its
terminal result, and each `Close` closes the transport's body once**: for any body, any
split of it into reads, with payload instrumentation on or off, any buffer size and any sizes
of the caller's reads. -/
theorem drain_doRoundTrip (t : Transport) (bufferSize : Nat) (opts : ClientOptions)
    (req : Request) (trace : List Hook) (status : Nat) (b : Body) (fuel : Nat) (cs : List Nat)
    (hcs : ∀ c ∈ cs, 0 < c) (hfuel : b.rest.length < fuel) :
    ∃ resp, (doRoundTrip parseIPv6 t bufferSize opts req trace (.ok ⟨status, .body b⟩)).1 = .ok resp ∧
      drain ReadCloser.read fuel cs resp.body = (b.rest, some b.term) ∧
      ∀ evs c, (resp.body.close evs c).2 = c + 1 := by
  obtain ⟨hres, -⟩ := doRoundTrip_ok parseIPv6 t bufferSize opts req trace ⟨status, .body b⟩
  obtain ⟨hc, ht, hwf⟩ := responsePayload_content t b bufferSize
  refine ⟨_, hres, ?_, fun evs c => close_closes _ evs c⟩
  split_ifs <;>
    · rw [← hc, ← ht]
      exact drain_of_honest honest_readCloser fuel cs _ hwf hcs (hc ▸ hfuel)

/-- A five-byte body that arrives as one byte and then four with `io.EOF`, behind a chunk of
two bytes, read by a caller in buffers of two. -/
theorem drain_doRoundTrip_split :
    (∀ c ∈ [2, 2], 0 < c) ∧ (lit "hello").length < 6 ∧
      ∃ resp, (doRoundTrip (fun _ => []) ⟨true⟩ 2 ClientOptions.default
          ⟨lit "GET", lit "/", lit "/", false, none⟩ [.gotFirstResponseByte]
          (.ok ⟨200, .body ⟨lit "hello", [(1, false), (4, true)], .eof⟩⟩)).1 = .ok resp ∧
        drain ReadCloser.read 6 [2, 2] resp.body = (lit "hello", some .eof) ∧
        ∀ evs c, (resp.body.close evs c).2 = c + 1 :=
  ⟨by decide, by decide, drain_doRoundTrip (fun _ => []) ⟨true⟩ 2 ClientOptions.default
    ⟨lit "GET", lit "/", lit "/", false, none⟩ [.gotFirstResponseByte] 200
    ⟨lit "hello", [(1, false), (4, true)], .eof⟩ 6 [2, 2] (by decide) (by decide)⟩

/-! ## When the span is finished -/

/-- The calls on the client span once the caller, given the result of `doRoundTrip`, has read
and closed the body, and the transport has called its hooks, by `ops`: after an error the
caller has no body. -/
def spanAfter (t : Transport) (bufferSize : Nat) (opts : ClientOptions) (req : Request)
    (trace : List Hook) (rt : Except Nat TransportResponse) (ops : List Op) : List SpanEvent :=
  match doRoundTrip parseIPv6 t bufferSize opts req trace rt with
  | (.error _, sp) => sp.events
  | (.ok resp, sp) => (CallerState.run parseIPv6 ⟨resp.body, sp.events, 0⟩ ops).events

/-- **The span is finished once per `Close` of the returned body**, besides the observer's
own calls, unless the round trip failed or the method is `HEAD`, when `doRoundTrip` finishes
it once itself; the hooks finish it never. -/
theorem finishes_spanAfter (t : Transport) (bufferSize : Nat) (opts : ClientOptions)
    (req : Request) (trace : List Hook) (rt : Except Nat TransportResponse) (ops : List Op) :
    finishes (spanAfter parseIPv6 t bufferSize opts req trace rt ops) =
      finishes opts.spanObserver +
        (if rt.isOk = false ∨ req.method = lit "HEAD" then 1 else ops.count .close) := by
  cases rt with
  | error e =>
    obtain ⟨hres, hfin⟩ := doRoundTrip_error parseIPv6 t bufferSize opts req trace e
    simp only [spanAfter]
    rcases h : doRoundTrip parseIPv6 t bufferSize opts req trace (.error e) with ⟨res, sp⟩
    rw [h] at hres hfin
    subst hres
    simpa [Except.isOk, Except.toBool] using hfin
  | ok resp =>
    obtain ⟨hres, hfin⟩ := doRoundTrip_ok parseIPv6 t bufferSize opts req trace resp
    simp only [spanAfter]
    rcases h : doRoundTrip parseIPv6 t bufferSize opts req trace (.ok resp) with ⟨res, sp⟩
    rw [h] at hres hfin
    subst hres
    rw [(CallerState.run_spec parseIPv6 _ ops).1, hfin]
    split_ifs <;> simp_all [ReadCloser.trackers, Except.isOk, Except.toBool]

/-- A `GET` whose body is closed twice, by a deferred `Close` and an explicit one: the span is
finished twice. -/
theorem spanAfter_close_twice :
    finishes (spanAfter (fun _ => []) ⟨false⟩ 1 ClientOptions.default
      ⟨lit "GET", lit "/", lit "/", false, none⟩ [] (.ok ⟨200, .body ⟨[], [], .eof⟩⟩)
      [.close, .close]) = 2 := by
  decide

end RoundTrip

end Nethttp
end ScopeAgent
