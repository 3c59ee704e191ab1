/-
# The client-trace hooks

`Tracer.clientTrace` (`src/instrumentation/nethttp/client.go`, lines 313-420) installs a
hook for each event of `net/http/httptrace`; each logs the event on the client span, some
set tags.  `connectStart` (lines 365-383) tags the peer from the address the dialer reports:
it cuts the address at its first `:`, parses the host with `net.ParseIP` and tags it IPv4 when
`ip.Equal(ip.To4())`, IPv6 when `ip.Equal(ip.To16())`, and the port when the rest is a
`uint16`.

For the form `net.JoinHostPort(ip.String(), port)` the dialer reports, an IPv4 address is
tagged as itself with its port (`connectStart_ipv4`).  An IPv6 address is written in brackets,
so the first `:` falls inside it: the host `[` and the hex digits before that `:` parse to
nil, nil equals its own `To4()`, and the peer is tagged IPv4 as `<nil>`, with no IPv6 tag
and no port, whatever the port (`connectStart_ipv6`).  No hook finishes the span
(`finishes_hook`).
-/

import ScopeAgent.Go.Net
import ScopeAgent.Nethttp.Span

namespace ScopeAgent
namespace Nethttp

open Net

section Hooks

-- the IPv6 half of `net.ParseIP`, which is not modelled
variable (parseIPv6 : Bytes → IP)

/-- `h.getConn(hostPort)`. -/
def getConn (_hostPort : Bytes) : List SpanEvent := [logEvent (lit "GetConn")]

/-- `h.gotConn(info)`. -/
def gotConn (reused wasIdle : Bool) : List SpanEvent :=
  [.setTag (.named (lit "net/http.reused")) (.bool reused),
    .setTag (.named (lit "net/http.was_idle")) (.bool wasIdle), logEvent (lit "GotConn")]

/-- `h.putIdleConn(err)`. -/
def putIdleConn (_err : Option Nat) : List SpanEvent := [logEvent (lit "PutIdleConn")]

/-- `h.gotFirstResponseByte()`. -/
def gotFirstResponseByte : List SpanEvent := [logEvent (lit "GotFirstResponseByte")]

/-- `h.got100Continue()`. -/
def got100Continue : List SpanEvent := [logEvent (lit "Got100Continue")]

/-- `h.dnsStart(info)`. -/
def dnsStart (host : Bytes) : List SpanEvent :=
  [.logFields [(lit "event", .str (lit "DNSStart")), (lit "host", .str host)],
    .setTag .peerHostname (.str host)]

/-- `h.dnsDone(info)`: the addresses, each with its zone, and the error. -/
def dnsDone (addrs : List (IP × Bytes)) (err : Option Nat) : List SpanEvent :=
  [.logFields ((lit "event", .str (lit "DNSDone")) ::
    addrs.map (fun a => (lit "addr", .str (ipAddrString a.1 a.2))) ++
    (match err with | some e => [(lit "error", .error e)] | none => []))]

/-- `h.connectStart(network, addr)`. -/
def connectStart (network addr : Bytes) : List SpanEvent :=
  [.logFields [(lit "event", .str (lit "ConnectStart")), (lit "network", .str network),
      (lit "addr", .str addr)],
    .setTag .peerAddress (.str addr)] ++
  match Strings.indexByte addr 0x3a with
  | none => []
  | some idx =>
    let ip := parseIP parseIPv6 (addr.take idx)
    (if IP.equal ip (IP.to4 ip) then [.setTag .peerHostIPv4 (.str (IP.string ip))]
      else if IP.equal ip (IP.to16 ip) then [.setTag .peerHostIPv6 (.str (IP.string ip))]
      else []) ++
    match Strconv.parseUint (addr.drop (idx + 1)) 10 16 with
    | (val, none) => [.setTag .peerPort (.uint16 (val % 2 ^ 16))]
    | _ => []

/-- `h.connectDone(network, addr, err)`. -/
def connectDone (network addr : Bytes) (err : Option Nat) : List SpanEvent :=
  match err with
  | some e =>
    [.logFields [(lit "message", .str (lit "ConnectDone")), (lit "network", .str network),
      (lit "addr", .str addr), (lit "event", .str (lit "error")), (lit "error", .error e)]]
  | none =>
    [.logFields [(lit "event", .str (lit "ConnectDone")), (lit "network", .str network),
      (lit "addr", .str addr)]]

/-- `h.wroteHeaders()`. -/
def wroteHeaders : List SpanEvent := [logEvent (lit "WroteHeaders")]

/-- `h.wait100Continue()`. -/
def wait100Continue : List SpanEvent := [logEvent (lit "Wait100Continue")]

/-- `h.wroteRequest(info)`. -/
def wroteRequest (err : Option Nat) : List SpanEvent :=
  match err with
  | some e =>
    [.logFields [(lit "message", .str (lit "WroteRequest")), (lit "event", .str (lit "error")),
      (lit "error", .error e)],
      .setTag .error (.bool true)]
  | none => [logEvent (lit "WroteRequest")]

/-- A call of one of the hooks, with what the transport passes it. -/
inductive Hook
  | getConn (hostPort : Bytes)
  | gotConn (reused wasIdle : Bool)
  | putIdleConn (err : Option Nat)
  | gotFirstResponseByte
  | got100Continue
  | dnsStart (host : Bytes)
  | dnsDone (addrs : List (IP × Bytes)) (err : Option Nat)
  | connectStart (network addr : Bytes)
  | connectDone (network addr : Bytes) (err : Option Nat)
  | wroteHeaders
  | wait100Continue
  | wroteRequest (err : Option Nat)
  deriving DecidableEq, Repr

/-- The calls a hook makes on the span. -/
def Hook.events : Hook → List SpanEvent
  | .getConn hostPort => Nethttp.getConn hostPort
  | .gotConn reused wasIdle => Nethttp.gotConn reused wasIdle
  | .putIdleConn err => Nethttp.putIdleConn err
  | .gotFirstResponseByte => Nethttp.gotFirstResponseByte
  | .got100Continue => Nethttp.got100Continue
  | .dnsStart host => Nethttp.dnsStart host
  | .dnsDone addrs err => Nethttp.dnsDone addrs err
  | .connectStart network addr => Nethttp.connectStart parseIPv6 network addr
  | .connectDone network addr err => Nethttp.connectDone network addr err
  | .wroteHeaders => Nethttp.wroteHeaders
  | .wait100Continue => Nethttp.wait100Continue
  | .wroteRequest err => Nethttp.wroteRequest err

/-- **No hook finishes the span.** -/
theorem finishes_hook (h : Hook) : finishes (h.events parseIPv6) = 0 := by
  have hip : ∀ ip : IP, finishes (if IP.equal ip (IP.to4 ip) then [.setTag .peerHostIPv4 (.str (IP.string ip))]
      else if IP.equal ip (IP.to16 ip) then [.setTag .peerHostIPv6 (.str (IP.string ip))] else []) = 0 := by
    intro ip
    split_ifs <;> rfl
  cases h with
  | connectStart network addr =>
    simp only [Hook.events, connectStart, finishes_append, finishes_cons_logFields,
      finishes_cons_setTag, finishes_nil, hip, Nat.zero_add]
    split
    · rfl
    · rw [finishes_append, hip]
      split <;> rfl
  | connectDone _ _ err => cases err <;> rfl
  | wroteRequest err => cases err <;> rfl
  | _ => rfl

/-! ## `connectStart` on the address the dialer reports -/

/-- `connectStart` on an address whose first `:` follows `host`: the host is what
`net.ParseIP` reads, the rest after the colon is the port. -/
theorem connectStart_cut (network : Bytes) {host : Bytes} (hhost : 0x3a ∉ host) (rest : Bytes) :
    connectStart parseIPv6 network (host ++ 0x3a :: rest) =
      [.logFields [(lit "event", .str (lit "ConnectStart")), (lit "network", .str network),
          (lit "addr", .str (host ++ 0x3a :: rest))],
        .setTag .peerAddress (.str (host ++ 0x3a :: rest))] ++
      ((if IP.equal (parseIP parseIPv6 host) (IP.to4 (parseIP parseIPv6 host)) then
          [.setTag .peerHostIPv4 (.str (IP.string (parseIP parseIPv6 host)))]
        else if IP.equal (parseIP parseIPv6 host) (IP.to16 (parseIP parseIPv6 host)) then
          [.setTag .peerHostIPv6 (.str (IP.string (parseIP parseIPv6 host)))]
        else []) ++
      match Strconv.parseUint rest 10 16 with
      | (val, none) => [.setTag .peerPort (.uint16 (val % 2 ^ 16))]
      | _ => []) := by
  have hdrop : (host ++ 0x3a :: rest).drop (host.length + 1) = rest := by
    rw [← List.drop_drop, List.drop_left]
    rfl
  rw [connectStart, Strings.indexByte_append_cons hhost]
  dsimp only
  rw [List.take_left' rfl, hdrop]

/-- **An IPv4 address is tagged as itself, with its port.** -/
theorem connectStart_ipv4 (network : Bytes) {ip : IP} {a b c d : UInt8}
    (h4 : IP.to4 ip = [a, b, c, d]) {port : Nat} (hp : port < 2 ^ 16) :
    connectStart parseIPv6 network (joinHostPort (IP.string ip) (Strconv.formatUint port 10)) =
      [.logFields [(lit "event", .str (lit "ConnectStart")), (lit "network", .str network),
          (lit "addr", .str (IP.string ip ++ lit ":" ++ Strconv.formatUint port 10))],
        .setTag .peerAddress (.str (IP.string ip ++ lit ":" ++ Strconv.formatUint port 10)),
        .setTag .peerHostIPv4 (.str (IP.string ip)), .setTag .peerPort (.uint16 port)] := by
  have hs := string_of_to4 h4
  have hcolon : 0x3a ∉ IP.string ip := hs ▸ colon_not_mem_dotted a b c d
  have hport : Strconv.parseUint (Strconv.formatUint port 10) 10 16 = (port, none) :=
    Strconv.parseUint_formatUint (by omega) (by omega) (by omega) hp
  rw [joinHostPort, if_neg fun h => hcolon (Strings.isSome_indexByte.1 h), List.append_assoc,
    show lit ":" ++ Strconv.formatUint port 10 = 0x3a :: Strconv.formatUint port 10 from rfl,
    connectStart_cut parseIPv6 network hcolon, hport]
  dsimp only
  rw [Nat.mod_eq_of_lt hp, hs, parseIP_dotted, to4_ipv4, equal_ipv4_to4, if_pos rfl, string_of_to4 (to4_ipv4 a b c d)]
  rfl

/-- `127.0.0.1` on port 8080. -/
theorem connectStart_loopback4 :
    IP.to4 (ipv4 127 0 0 1) = [127, 0, 0, 1] ∧ 8080 < 2 ^ 16 ∧
      connectStart (fun _ => []) (lit "tcp")
          (joinHostPort (IP.string (ipv4 127 0 0 1)) (Strconv.formatUint 8080 10)) =
        [.logFields [(lit "event", .str (lit "ConnectStart")), (lit "network", .str (lit "tcp")),
            (lit "addr", .str (IP.string (ipv4 127 0 0 1) ++ lit ":" ++ Strconv.formatUint 8080 10))],
          .setTag .peerAddress (.str (IP.string (ipv4 127 0 0 1) ++ lit ":" ++ Strconv.formatUint 8080 10)),
          .setTag .peerHostIPv4 (.str (IP.string (ipv4 127 0 0 1))), .setTag .peerPort (.uint16 8080)] :=
  ⟨rfl, by decide, connectStart_ipv4 (fun _ => []) (lit "tcp")
    (show IP.to4 (ipv4 127 0 0 1) = [127, 0, 0, 1] from rfl) (by decide)⟩

/-- Before its first `:`, what `String` prints for an IPv6 address is hex digits. -/
theorem not_dot_of_hexOrColon {c : UInt8} (h : isHexOrColon c = true) : c ≠ 0x2e := by
  have hdig : ∀ v < 16, hexDigit v ≠ 0x2e := by decide
  simp only [isHexOrColon, Bool.or_eq_true, decide_eq_true_eq, List.any_eq_true,
    List.mem_range] at h
  rcases h with rfl | ⟨v, hv, rfl⟩
  · decide
  · exact hdig v hv

/-- `[` and the hex digits before the first `:` of an IPv6 address are no IP. -/
theorem parseIP_bracket {t : Bytes} (ht : 0x3a ∉ t) (hchars : ∀ c ∈ t, isHexOrColon c = true) :
    parseIP parseIPv6 (0x5b :: t) = [] := by
  rw [parseIP, List.find?_eq_none.2]
  intro x hx
  rcases List.mem_cons.1 hx with rfl | hx
  · decide
  · have hcol : x ≠ 0x3a := fun he => ht (he ▸ hx)
    simp [not_dot_of_hexOrColon (hchars x hx), hcol]

/-- **An IPv6 address is tagged IPv4 as `<nil>`, with no IPv6 tag and no port**, whatever
the port. -/
theorem connectStart_ipv6 (network : Bytes) {ip : IP} (h6 : IsIPv6 ip) (port : Bytes) :
    connectStart parseIPv6 network (joinHostPort (IP.string ip) port) =
      [.logFields [(lit "event", .str (lit "ConnectStart")), (lit "network", .str network),
          (lit "addr", .str (lit "[" ++ IP.string ip ++ lit "]:" ++ port))],
        .setTag .peerAddress (.str (lit "[" ++ IP.string ip ++ lit "]:" ++ port)),
        .setTag .peerHostIPv4 (.str (lit "<nil>"))] := by
  have hcolon := colon_mem_string h6
  obtain ⟨t, u, hs, ht⟩ := Strings.exists_eq_append_cons hcolon
  have hchars := string_chars h6
  rw [hs] at hchars
  have hhost := parseIP_bracket parseIPv6 ht fun c hc => hchars c (List.mem_append_left _ hc)
  have hport : (Strconv.parseUint (u ++ lit "]:" ++ port) 10 16).2 ≠ none :=
    Strconv.parseUint_of_mem (c := 0x5d) (by decide)
      (List.mem_append_left port (List.mem_append_right u (by decide))) 10 16
  have haddr : lit "[" ++ IP.string ip ++ lit "]:" ++ port =
      (0x5b :: t) ++ 0x3a :: (u ++ lit "]:" ++ port) := by
    simp only [hs, List.append_assoc, List.cons_append]
    rfl
  rw [joinHostPort, if_pos (Strings.isSome_indexByte.2 hcolon), haddr,
    connectStart_cut parseIPv6 network (List.not_mem_cons_of_ne_of_not_mem (by decide) ht), hhost]
  simp only [to4_nil, equal_nil, if_true, string_nil]
  rcases hp : Strconv.parseUint (u ++ lit "]:" ++ port) 10 16 with ⟨val, _ | e⟩
  · exact absurd (congrArg Prod.snd hp) hport
  · rfl

/-- `::1` on port 80: the dialer reports `[::1]:80`, and the peer is tagged IPv4 as `<nil>`,
with no port. -/
theorem connectStart_loopback6 :
    IsIPv6 (List.replicate 15 0 ++ [1]) ∧
      joinHostPort (IP.string (List.replicate 15 0 ++ [1])) (lit "80") = lit "[::1]:80" ∧
      connectStart (fun _ => []) (lit "tcp") (lit "[::1]:80") =
        [.logFields [(lit "event", .str (lit "ConnectStart")), (lit "network", .str (lit "tcp")),
            (lit "addr", .str (lit "[::1]:80"))],
          .setTag .peerAddress (.str (lit "[::1]:80")), .setTag .peerHostIPv4 (.str (lit "<nil>"))] := by
  have hjoin : joinHostPort (IP.string (List.replicate 15 0 ++ [1])) (lit "80") = lit "[::1]:80" := by
    decide
  have h6 : IsIPv6 (List.replicate 15 0 ++ [1]) := ⟨rfl, rfl⟩
  have h := connectStart_ipv6 (fun _ => []) (lit "tcp") h6 (lit "80")
  rw [hjoin, show lit "[" ++ IP.string (List.replicate 15 0 ++ [1]) ++ lit "]:" ++ lit "80" =
    lit "[::1]:80" by decide] at h
  exact ⟨h6, hjoin, h⟩

end Hooks

end Nethttp
end ScopeAgent
