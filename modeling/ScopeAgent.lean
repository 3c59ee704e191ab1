import ScopeAgent.Go.Bytes
import ScopeAgent.Go.Unicode
import ScopeAgent.Go.Strconv
import ScopeAgent.Go.Uuid
import ScopeAgent.Tracer.SpanContext
import ScopeAgent.Tracer.TextMap
import ScopeAgent.Tracer.TextMapWalk
import ScopeAgent.Tracer.TextMapRoundTrip
import ScopeAgent.Tracer.TextMapOrder
import ScopeAgent.Go.Textproto
import ScopeAgent.Tracer.HttpHeaders
import ScopeAgent.Go.Io
import ScopeAgent.Go.Proto
import ScopeAgent.Tracer.Wire
import ScopeAgent.Tracer.WireRoundTrip
import ScopeAgent.Tracer.Binary
import ScopeAgent.Go.MultiReader
import ScopeAgent.Go.Net
import ScopeAgent.Nethttp.Span
import ScopeAgent.Nethttp.ClientTrace
import ScopeAgent.Nethttp.Client
import ScopeAgent.Ast.Sources
import ScopeAgent.Ast.Goroutines
import ScopeAgent.Tracer.RandomID
import ScopeAgent.Testing.StartTest
import ScopeAgent.Testing.RunPatch
import ScopeAgent.Agent.NewAgent
