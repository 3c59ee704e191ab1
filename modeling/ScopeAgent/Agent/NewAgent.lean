/-
# The API key and endpoint of a new agent

`NewAgent` (package `agent`, in `src/instrumentation/testing/testing.go`, lines 377-495) applies
its options to a new `Agent` and then fills the API key and the endpoint in three passes
(lines 396-426):

1. while the key or the endpoint is still empty, a non-empty `SCOPE_DSN` that `parseDSN`
   (lines 595-606) accepts replaces **both**, the key by the DSN's user name, `""` for a DSN
   without one (`applyDSN`);
2. an empty key is taken from `SCOPE_APIKEY`, else from the config profile, else `NewAgent`
   fails with `Scope API key could not be autodetected` (`resolveApiKey`);
3. an empty endpoint is taken from `SCOPE_API_ENDPOINT`, else from the profile, else
   `defaultApiEndpoint` (`resolveApiEndpoint`).

The environment, `GetConfigCurrentProfile` (not in the source) and `url.Parse` with
`URL.String` are parameters.  Before the passes, `setupLogging` (line 388) opens the log file
under the folder `getLogPath` (lines 558-593) picks; its error only replaces the logger, but it
panics where `getLogPath` does: with `SCOPE_LOG_ROOT_PATH` unset, `getLogPath` reads the home
directory of the `nil` that a failing `user.Current()` returns (`newAgentOrPanic`).  The rest
of `NewAgent` (metadata, recorder, tracer) reads neither field; the panics that can come from
it, in `generateAgentID` (line 381) and in the assertion `agent.metadata[tags.CI].(bool)`,
depend on functions not in the source and are left out.

* Options that give both a key and an endpoint are what the agent gets, whatever the
  environment (`newAgent_options`).
* Options that give no endpoint are overridden by `SCOPE_DSN`, the key as well: a DSN without
  a user name empties the key the options gave, and with neither `SCOPE_APIKEY` nor a profile
  `NewAgent` fails (`applyDSN_of_apiEndpoint_nil`, `newAgent_dsn_drops_apiKey`).
* An agent comes out with an empty key or endpoint only where the profile has one
  (`newAgent_ok_nonempty`).
* `NewAgent` panics exactly where `SCOPE_LOG_ROOT_PATH` is unset and `user.Current()` fails
  (`newAgentOrPanic_eq_none_iff`), and otherwise returns what the passes give
  (`newAgentOrPanic_eq_some`).

`getLogPath` falls back to `ioutil.TempDir` with its error test the wrong way round: where it
returns, it returns no error, and `""` where `TempDir` succeeds (`getLogPath_no_error`).
-/

import ScopeAgent.Go.Bytes

namespace ScopeAgent

/-- The fields of `Agent` that the options set and `NewAgent` fills. -/
structure Agent where
  apiEndpoint : Bytes
  apiKey : Bytes
  deriving DecidableEq, Repr

namespace Agent

/-- `WithApiKey(apiKey)`. -/
def withApiKey (apiKey : Bytes) (agent : Agent) : Agent := { agent with apiKey }

/-- `WithApiEndpoint(apiEndpoint)`. -/
def withApiEndpoint (apiEndpoint : Bytes) (agent : Agent) : Agent := { agent with apiEndpoint }

/-- `for _, opt := range options { opt(agent) }` on a new agent. -/
def applyOptions (options : List (Agent → Agent)) : Agent :=
  options.foldl (fun agent opt => opt agent) ⟨[], []⟩

/-- The fields of the config profile `NewAgent` reads. -/
structure ConfigProfile where
  apiEndpoint : Bytes
  apiKey : Bytes

/-- What `parseDSN` reads of the `*url.URL` that `url.Parse` returns: `uri.User.Username()`
where `uri.User != nil`, and `uri.String()` once `uri.User = nil`. -/
structure Url where
  username : Option Bytes
  withoutUser : Bytes

/-- `parseDSN(dsnString)`: the user name as the key, the URL without it as the endpoint. -/
def parseDSN (urlParse : Bytes → Except Bytes Url) (dsnString : Bytes) :
    Except Bytes (Bytes × Bytes) :=
  (urlParse dsnString).map fun uri => (uri.username.getD [], uri.withoutUser)

/-- `v, set := os.LookupEnv(k); set && v != ""`: the variable where it is set and not empty. -/
def lookupNonEmpty (lookupEnv : Bytes → Option Bytes) (k : Bytes) : Option Bytes :=
  match lookupEnv k with
  | some v => if v.isEmpty then none else some v
  | none => none

/-- `defaultApiEndpoint` (line 307). -/
def defaultApiEndpoint : Bytes := lit "https://app.scope.dev"

/-- Lines 396-406: with the key or the endpoint empty, a DSN that parses replaces both. -/
def applyDSN (lookupEnv : Bytes → Option Bytes) (urlParse : Bytes → Except Bytes Url)
    (agent : Agent) : Agent :=
  if agent.apiKey.isEmpty || agent.apiEndpoint.isEmpty then
    match lookupNonEmpty lookupEnv (lit "SCOPE_DSN") with
    | some dsn =>
      match parseDSN urlParse dsn with
      | .ok (dsnApiKey, dsnApiEndpoint) => ⟨dsnApiEndpoint, dsnApiKey⟩
      | .error _ => agent
    | none => agent
  else agent

/-- Lines 408-416: an empty key from `SCOPE_APIKEY` or the profile, or the error. -/
def resolveApiKey (lookupEnv : Bytes → Option Bytes) (configProfile : Option ConfigProfile)
    (agent : Agent) : Except Bytes Agent :=
  if agent.apiKey.isEmpty then
    match lookupNonEmpty lookupEnv (lit "SCOPE_APIKEY"), configProfile with
    | some apikey, _ => .ok { agent with apiKey := apikey }
    | none, some profile => .ok { agent with apiKey := profile.apiKey }
    | none, none => .error (lit "Scope API key could not be autodetected")
  else .ok agent

/-- Lines 418-426: an empty endpoint from `SCOPE_API_ENDPOINT`, the profile or the default. -/
def resolveApiEndpoint (lookupEnv : Bytes → Option Bytes) (configProfile : Option ConfigProfile)
    (agent : Agent) : Agent :=
  if agent.apiEndpoint.isEmpty then
    match lookupNonEmpty lookupEnv (lit "SCOPE_API_ENDPOINT"), configProfile with
    | some endpoint, _ => { agent with apiEndpoint := endpoint }
    | none, some profile => { agent with apiEndpoint := profile.apiEndpoint }
    | none, none => { agent with apiEndpoint := defaultApiEndpoint }
  else agent

/-- `NewAgent(options...)`, the key and the endpoint of the agent or the error it returns. -/
def newAgent (lookupEnv : Bytes → Option Bytes) (urlParse : Bytes → Except Bytes Url)
    (configProfile : Option ConfigProfile) (options : List (Agent → Agent)) :
    Except Bytes Agent :=
  (resolveApiKey lookupEnv configProfile (applyDSN lookupEnv urlParse (applyOptions options))).map
    (resolveApiEndpoint lookupEnv configProfile)

section NewAgent

variable (lookupEnv : Bytes → Option Bytes) (urlParse : Bytes → Except Bytes Url)
  (configProfile : Option ConfigProfile)

theorem lookupNonEmpty_ne_nil {k v : Bytes} (h : lookupNonEmpty lookupEnv k = some v) :
    v ≠ [] := by
  unfold lookupNonEmpty at h
  split at h
  · split at h
    · nomatch h
    · cases h
      rename_i hv
      simpa [List.isEmpty_iff] using hv
  · nomatch h

/-- A key and an endpoint are left as they are by every pass. -/
theorem applyDSN_of_ne_nil {agent : Agent} (hk : agent.apiKey ≠ [])
    (he : agent.apiEndpoint ≠ []) :
    applyDSN lookupEnv urlParse agent = agent := by
  unfold applyDSN
  rw [if_neg (by simp [List.isEmpty_iff, hk, he])]

theorem resolveApiKey_of_ne_nil {agent : Agent} (hk : agent.apiKey ≠ []) :
    resolveApiKey lookupEnv configProfile agent = .ok agent := by
  unfold resolveApiKey
  rw [if_neg (by simpa [List.isEmpty_iff] using hk)]

theorem resolveApiEndpoint_of_ne_nil {agent : Agent} (he : agent.apiEndpoint ≠ []) :
    resolveApiEndpoint lookupEnv configProfile agent = agent := by
  unfold resolveApiEndpoint
  rw [if_neg (by simpa [List.isEmpty_iff] using he)]

/-- **Options that give a key and an endpoint win.**  For every environment, DSN parser and
profile, the agent gets the key and the endpoint its options give, where both are non-empty. -/
theorem newAgent_options (options : List (Agent → Agent))
    (hk : (applyOptions options).apiKey ≠ []) (he : (applyOptions options).apiEndpoint ≠ []) :
    newAgent lookupEnv urlParse configProfile options = .ok (applyOptions options) := by
  rw [newAgent, applyDSN_of_ne_nil lookupEnv urlParse hk he,
    resolveApiKey_of_ne_nil lookupEnv configProfile hk, Except.map,
    resolveApiEndpoint_of_ne_nil lookupEnv configProfile he]

/-- With no endpoint yet, a DSN that parses gives both fields, whatever key the agent had. -/
theorem applyDSN_of_apiEndpoint_nil {agent : Agent} (he : agent.apiEndpoint = []) {dsn : Bytes}
    (hdsn : lookupNonEmpty lookupEnv (lit "SCOPE_DSN") = some dsn) {uri : Url}
    (huri : urlParse dsn = .ok uri) :
    applyDSN lookupEnv urlParse agent = ⟨uri.withoutUser, uri.username.getD []⟩ := by
  unfold applyDSN
  rw [if_pos (by simp [he]), hdsn]
  simp only [parseDSN, huri, Except.map]

/-- **`SCOPE_DSN` drops the key of the options.**  Options that give any key but no endpoint,
a non-empty `SCOPE_DSN` that parses to a URL without a user name, no `SCOPE_APIKEY` and no
profile: `NewAgent` fails, `Scope API key could not be autodetected`. -/
theorem newAgent_dsn_drops_apiKey (options : List (Agent → Agent))
    (he : (applyOptions options).apiEndpoint = []) {dsn : Bytes}
    (hdsn : lookupNonEmpty lookupEnv (lit "SCOPE_DSN") = some dsn) {uri : Url}
    (huri : urlParse dsn = .ok uri) (huser : uri.username.getD [] = [])
    (hkey : lookupNonEmpty lookupEnv (lit "SCOPE_APIKEY") = none) :
    newAgent lookupEnv urlParse none options =
      .error (lit "Scope API key could not be autodetected") := by
  rw [newAgent, applyDSN_of_apiEndpoint_nil lookupEnv urlParse he hdsn huri]
  unfold resolveApiKey
  simp only [huser, List.isEmpty_nil, if_true, hkey]
  rfl

/-- `NewAgent(WithApiKey("key"))` with `SCOPE_DSN=https://app.scope.dev` and nothing else set
fails. -/
example :
    newAgent (fun k => if k = lit "SCOPE_DSN" then some defaultApiEndpoint else none)
        (fun dsn => .ok ⟨none, dsn⟩) none [withApiKey (lit "key")] =
      .error (lit "Scope API key could not be autodetected") :=
  have hdsn : lookupNonEmpty
      (fun k => if k = lit "SCOPE_DSN" then some defaultApiEndpoint else none)
      (lit "SCOPE_DSN") = some defaultApiEndpoint := by decide
  newAgent_dsn_drops_apiKey _ _ _ rfl hdsn rfl rfl (by decide)

/-- The key pass leaves a key empty only where the profile's is. -/
theorem resolveApiKey_nonempty {agent a : Agent}
    (h : resolveApiKey lookupEnv configProfile agent = .ok a) (ha : a.apiKey = []) :
    ∃ profile, configProfile = some profile ∧ profile.apiKey = [] := by
  unfold resolveApiKey at h
  split_ifs at h with hk
  · split at h
    · cases h
      exact absurd ha (lookupNonEmpty_ne_nil lookupEnv (by assumption))
    · cases h
      exact ⟨_, rfl, ha⟩
    · nomatch h
  · cases h
    exact absurd (List.isEmpty_iff.2 ha) (by simpa using hk)

/-- The endpoint pass leaves the key, and leaves the endpoint empty only where the profile's
is. -/
theorem resolveApiEndpoint_nonempty (agent : Agent) :
    (resolveApiEndpoint lookupEnv configProfile agent).apiKey = agent.apiKey ∧
      ((resolveApiEndpoint lookupEnv configProfile agent).apiEndpoint = [] →
        ∃ profile, configProfile = some profile ∧ profile.apiEndpoint = []) := by
  unfold resolveApiEndpoint
  split_ifs with he
  · split
    · exact ⟨rfl, fun h => absurd h (lookupNonEmpty_ne_nil lookupEnv (by assumption))⟩
    · exact ⟨rfl, fun h => ⟨_, rfl, h⟩⟩
    · exact ⟨rfl, fun h => nomatch h⟩
  · exact ⟨rfl, fun h => absurd (List.isEmpty_iff.2 h) (by simpa using he)⟩

/-- **An agent's key and endpoint are empty only where the profile's are.**  For every
environment, DSN parser, profile and options, an agent `NewAgent` returns has a non-empty key
and a non-empty endpoint, except where it took an empty one from the config profile. -/
theorem newAgent_ok_nonempty (options : List (Agent → Agent)) {a : Agent}
    (h : newAgent lookupEnv urlParse configProfile options = .ok a) :
    (a.apiKey = [] → ∃ profile, configProfile = some profile ∧ profile.apiKey = []) ∧
      (a.apiEndpoint = [] → ∃ profile, configProfile = some profile ∧ profile.apiEndpoint = []) := by
  unfold newAgent at h
  cases hr : resolveApiKey lookupEnv configProfile
      (applyDSN lookupEnv urlParse (applyOptions options)) with
  | error e => rw [hr] at h; nomatch h
  | ok b =>
    rw [hr] at h
    cases h
    obtain ⟨hkey, hend⟩ := resolveApiEndpoint_nonempty lookupEnv configProfile b
    exact ⟨fun ha => resolveApiKey_nonempty lookupEnv configProfile hr (hkey ▸ ha), hend⟩

/-- `NewAgent()` with `SCOPE_APIKEY=key` and nothing else set: the default endpoint. -/
theorem newAgent_ok_nonempty_apikey :
    newAgent (fun k => if k = lit "SCOPE_APIKEY" then some (lit "key") else none)
        (fun _ => .error []) none [] = .ok ⟨defaultApiEndpoint, lit "key"⟩ ∧
      ((lit "key" = [] → ∃ profile, (none : Option ConfigProfile) = some profile ∧
          profile.apiKey = []) ∧
        (defaultApiEndpoint = [] → ∃ profile, (none : Option ConfigProfile) = some profile ∧
          profile.apiEndpoint = [])) :=
  have h : newAgent (fun k => if k = lit "SCOPE_APIKEY" then some (lit "key") else none)
      (fun _ => .error []) none [] = .ok ⟨defaultApiEndpoint, lit "key"⟩ := rfl
  ⟨h, newAgent_ok_nonempty _ _ _ [] h⟩

end NewAgent

/-! ## The log file, and where `NewAgent` panics -/

/-- What `getLogPath` and `setupLogging` ask of the system: `runtime.GOOS`; the home directory
of the `*User` that `user.Current()` returns, `none` where it fails and returns `nil`; whether
`os.Stat` of a folder fails with `IsNotExist` and whether `os.Mkdir` of it fails; the directory
and error `ioutil.TempDir("", "scope")` returns; and the error of `os.OpenFile` on
`path.Join(dir, filename)`. -/
structure System where
  goos : Bytes
  homeDir : Option Bytes
  isNotExist : Bytes → Bool
  mkdirFails : Bytes → Bool
  tempDir : Bytes × Option Bytes
  openFile : Bytes → Bytes → Option Bytes

/-- The `logFolder` of `getLogPath` for `runtime.GOOS`, `""` for a system it does not name. -/
def logFolderOf (goos homeDir : Bytes) : Bytes :=
  if goos = lit "windows" then homeDir ++ lit "/AppData/Roaming/scope/logs"
  else if goos = lit "darwin" then homeDir ++ lit "/Library/Logs/Scope"
  else if goos = lit "linux" then lit "/var/log/scope"
  else []

/-- `getLogPath()`: its path and its error, or `none` where it panics.  With
`SCOPE_LOG_ROOT_PATH` unset, `currentUser.HomeDir` (lines 562-563) dereferences the `nil` that a
failing `user.Current()` returns, on every system. -/
def getLogPath (lookupEnv : Bytes → Option Bytes) (sys : System) :
    Option (Bytes × Option Bytes) :=
  match lookupEnv (lit "SCOPE_LOG_ROOT_PATH") with
  | some logPath => some (logPath, none)
  | none =>
    match sys.homeDir with
    | none => none
    | some homeDir =>
      let logFolder := logFolderOf sys.goos homeDir
      let isOk := !(sys.isNotExist logFolder && sys.mkdirFails logFolder)
      if logFolder ≠ [] ∧ isOk = true then some (logFolder, none)
      else
        match sys.tempDir with
        | (dir, err) => some (if err.isSome then (dir, none) else ([], err))

/-- `a.setupLogging()` (lines 497-512), `filename` being the name it formats from the time and
the agent id: its error, or `none` where it panics. -/
def setupLogging (lookupEnv : Bytes → Option Bytes) (sys : System) (filename : Bytes) :
    Option (Option Bytes) :=
  (getLogPath lookupEnv sys).map fun (dir, err) =>
    match err with
    | some e => some e
    | none => sys.openFile dir filename

/-- `NewAgent(options...)` to the end of its endpoint pass (lines 377-426): `none` where it
panics, in `setupLogging` (line 388), else the key and endpoint passes, whatever
`setupLogging` returned, whose error only replaces the logger (line 389). -/
def newAgentOrPanic (lookupEnv : Bytes → Option Bytes) (sys : System) (filename : Bytes)
    (urlParse : Bytes → Except Bytes Url) (configProfile : Option ConfigProfile)
    (options : List (Agent → Agent)) : Option (Except Bytes Agent) :=
  (setupLogging lookupEnv sys filename).map fun _ =>
    newAgent lookupEnv urlParse configProfile options

section Logging

variable (lookupEnv : Bytes → Option Bytes) (sys : System)

/-- **`getLogPath` panics exactly where `SCOPE_LOG_ROOT_PATH` is unset and `user.Current()`
fails.** -/
theorem getLogPath_eq_none_iff :
    getLogPath lookupEnv sys = none ↔
      lookupEnv (lit "SCOPE_LOG_ROOT_PATH") = none ∧ sys.homeDir = none := by
  unfold getLogPath
  split
  · simp_all
  · split
    · simp_all
    · -- past `user.Current()`, every branch returns
      simp_all
      split_ifs <;> simp

/-- **Where it returns, `getLogPath` returns no error**: its `ioutil.TempDir` fallback tests
`err != nil` the wrong way round (lines 588-592), returning the directory only where `TempDir`
fails, with a `nil` error, and `""` with the `nil` error where it succeeds. -/
theorem getLogPath_no_error {r : Bytes × Option Bytes} (h : getLogPath lookupEnv sys = some r) :
    r.2 = none := by
  unfold getLogPath at h
  split at h
  · cases h
    rfl
  · split at h
    · nomatch h
    · -- the log folder, or the fallback to `ioutil.TempDir`, both with a `nil` error
      dsimp only at h
      split_ifs at h <;> cases h <;> simp_all

/-- On Linux, with `/var/log/scope` missing and not creatable, `getLogPath` returns `""` for
the directory `ioutil.TempDir` made. -/
example :
    getLogPath (fun _ => none) ⟨lit "linux", some (lit "/home/go"), fun _ => true,
      fun _ => true, (lit "/tmp/scope1", none), fun _ _ => none⟩ = some ([], none) := by
  decide

/-- **`NewAgent` panics exactly where `getLogPath` does**, before it reads any key. -/
theorem newAgentOrPanic_eq_none_iff (filename : Bytes) (urlParse : Bytes → Except Bytes Url)
    (configProfile : Option ConfigProfile) (options : List (Agent → Agent)) :
    newAgentOrPanic lookupEnv sys filename urlParse configProfile options = none ↔
      lookupEnv (lit "SCOPE_LOG_ROOT_PATH") = none ∧ sys.homeDir = none := by
  rw [newAgentOrPanic, setupLogging, Option.map_eq_none', Option.map_eq_none',
    getLogPath_eq_none_iff]

/-- Where it does not panic, `NewAgent` returns what the key and endpoint passes give. -/
theorem newAgentOrPanic_eq_some (filename : Bytes) (urlParse : Bytes → Except Bytes Url)
    (configProfile : Option ConfigProfile) (options : List (Agent → Agent))
    (h : getLogPath lookupEnv sys ≠ none) :
    newAgentOrPanic lookupEnv sys filename urlParse configProfile options =
      some (newAgent lookupEnv urlParse configProfile options) := by
  obtain ⟨r, hr⟩ := Option.ne_none_iff_exists'.1 h
  rw [newAgentOrPanic, setupLogging, hr]
  rfl

end Logging

end Agent
end ScopeAgent
