/-
Who reads an endpoint how: the channel of a client (`client.rs`) and the probe
of an output domain (`readiness.rs`).  Both tell Unix sockets from addresses by
the first characters; they agree where the base path of the sockets is written
in a form both know.
-/
import AngzarrClient.Client.Transport
import AngzarrClient.Lib.Text

namespace AngzarrClient

/-- `readiness::Endpoint`, and the two branches of `create_channel`. -/
inductive Endpoint
  | tcp (address : String)
  | uds (path : String)
deriving DecidableEq, Repr

/-- `detect_uds_path`. -/
def detectUdsPath (endpoint : String) : Option String :=
  match Text.stripPrefix "unix://" endpoint with
  | some rest => some rest
  | none =>
      match Text.stripPrefix "unix:" endpoint with
      | some rest => some rest
      | none =>
          if ['/'].isPrefixOf endpoint.toList ∨ ['.', '/'].isPrefixOf endpoint.toList then
            some endpoint
          else none

/-- What `create_channel` connects to. -/
def channelEndpoint (endpoint : String) : Endpoint :=
  match detectUdsPath endpoint with
  | some path => .uds path
  | none => .tcp endpoint

/-- `DomainClient::for_domain(domain, None)`, up to its channel. -/
def DomainClient.forDomain (env : Env) (domain : String) : Except ClientError Endpoint :=
  (resolveChEndpoint env domain none none none none).map channelEndpoint

structure OutputDomainProbe where
  domain : String
  endpoint : Endpoint
deriving DecidableEq, Repr

/-- How the probe reads the resolved endpoint. -/
def probeEndpoint (raw : String) : Endpoint :=
  match Text.stripPrefix "unix:" raw with
  | some path => .uds path
  | none => if ['/'].isPrefixOf raw.toList then .uds raw else .tcp raw

/-- `OutputDomainProbe::for_domain`; an error is the panic of its `expect`. -/
def OutputDomainProbe.forDomain (env : Env) (domain : String) :
    Except ClientError OutputDomainProbe :=
  (resolveChEndpoint env domain none none none none).map fun raw =>
    { domain := domain, endpoint := probeEndpoint raw }

/-- The same socket, whatever the spelling of its path, or the same address. -/
def Endpoint.Same : Endpoint → Endpoint → Prop
  | .tcp address, .tcp address' => address = address'
  | .uds path, .uds path' => UnixPath.Same path path'
  | _, _ => False

/-- The endpoint is the Unix socket at `path`. -/
def Endpoint.IsSocket (path : String) (endpoint : Endpoint) : Prop :=
  endpoint.Same (.uds path)

/-- The base path, without the scheme it may be written with. -/
def withoutScheme (base : String) : String :=
  ((Text.stripPrefix "unix://" base).or (Text.stripPrefix "unix:" base)).getD base

/-- The socket of a domain under a base path. -/
def socketPath (base domain : String) : String :=
  withoutScheme base ++ "/ch-" ++ domain ++ ".sock"

/-- The client and the probe dial the same place, and in standalone mode the
domain's socket. -/
structure DialAlike (env : Env) (domain : String) (probe client : Endpoint) : Prop where
  same : probe.Same client
  standalone : TransportMode.fromEnv env = .ok .standalone →
    probe.IsSocket (socketPath (effectiveUdsBase env none) domain) ∧
      client.IsSocket (socketPath (effectiveUdsBase env none) domain)

/-- The forms of a base path that both read alike: empty, absolute, or behind
`unix:`; behind `unix://` only an absolute path or none. -/
def CommonForm (base : String) : Prop :=
  base = "" ∨ ['/'] <+: base.toList ∨
    ∃ rest, base = "unix:" ++ rest ∧ rest ≠ "/" ∧
      ∀ path, rest = "//" ++ path → path = "" ∨ ['/'] <+: path.toList

section Forms

variable {raw rest : String}

theorem detectUdsPath_slashes : detectUdsPath ("unix://" ++ rest) = some rest := by
  rw [detectUdsPath, Text.stripPrefix_append]

theorem stripPrefix_slashes_eq_none (hrest : ¬['/', '/'] <+: rest.toList) :
    Text.stripPrefix "unix://" ("unix:" ++ rest) = none := by
  rw [Text.stripPrefix_eq_none_iff, String.toList_append]
  intro hstarts
  exact hrest ((List.prefix_append_right_inj "unix:".toList).mp hstarts)

theorem not_slashes_of_not_scheme (hscheme : ¬"unix:".toList <+: raw.toList) :
    ¬"unix://".toList <+: raw.toList := by
  intro hstarts
  exact hscheme (List.IsPrefix.trans ⟨"//".toList, rfl⟩ hstarts)

theorem detectUdsPath_scheme (hrest : ¬['/', '/'] <+: rest.toList) :
    detectUdsPath ("unix:" ++ rest) = some rest := by
  rw [detectUdsPath, stripPrefix_slashes_eq_none hrest]
  dsimp only
  rw [Text.stripPrefix_append]

theorem detectUdsPath_of_not_scheme (hscheme : ¬"unix:".toList <+: raw.toList) :
    detectUdsPath raw =
      if ['/'] <+: raw.toList ∨ ['.', '/'] <+: raw.toList then some raw else none := by
  rw [detectUdsPath, Text.stripPrefix_eq_none_iff.mpr (not_slashes_of_not_scheme hscheme)]
  dsimp only
  rw [Text.stripPrefix_eq_none_iff.mpr hscheme]
  simp only [List.isPrefixOf_iff_prefix]

theorem probeEndpoint_scheme : probeEndpoint ("unix:" ++ rest) = .uds rest := by
  rw [probeEndpoint, Text.stripPrefix_append]

/-- The probe keeps the two slashes that the client strips. -/
theorem probeEndpoint_slashes : probeEndpoint ("unix://" ++ rest) = .uds ("//" ++ rest) := by
  rw [← probeEndpoint_scheme, ← String.append_assoc]
  rfl

theorem probeEndpoint_of_not_scheme (hscheme : ¬"unix:".toList <+: raw.toList) :
    probeEndpoint raw = if ['/'] <+: raw.toList then .uds raw else .tcp raw := by
  rw [probeEndpoint, Text.stripPrefix_eq_none_iff.mpr hscheme]
  simp only [List.isPrefixOf_iff_prefix]

end Forms

section Standalone

variable {base domain : String}

theorem toList_socketName (domain : String) :
    ∃ rest, ("/ch-" ++ domain ++ ".sock").toList = '/' :: 'c' :: rest := by
  refine ⟨'h' :: '-' :: (domain ++ ".sock").toList, ?_⟩
  rw [String.append_assoc, String.toList_append]
  rfl

/-- What an endpoint of the standalone mode starts with is told by its base. -/
theorem starts_socket_iff {pattern : List Char} (hc : 'c' ∉ pattern) :
    pattern <+: (base ++ ("/ch-" ++ domain ++ ".sock")).toList ↔
      pattern <+: base.toList ∨ pattern = base.toList ++ ['/'] := by
  obtain ⟨rest, hrest⟩ := toList_socketName domain
  rw [String.toList_append, hrest]
  exact Text.prefix_append_cons_cons_iff hc

theorem absolute_socket_iff :
    ['/'] <+: (base ++ ("/ch-" ++ domain ++ ".sock")).toList ↔
      base = "" ∨ ['/'] <+: base.toList := by
  rw [starts_socket_iff (by decide), or_comm, List.self_eq_append_left,
    String.toList_eq_nil_iff]

theorem not_starts_scheme (hscheme : ¬"unix:".toList <+: base.toList) :
    ¬"unix:".toList <+: (base ++ ("/ch-" ++ domain ++ ".sock")).toList := by
  rw [starts_socket_iff (by decide)]
  rintro (hstarts | heq)
  · exact hscheme hstarts
  · have hlast := congrArg List.getLast? heq
    rw [List.getLast?_concat] at hlast
    exact absurd hlast (by decide)

theorem withoutScheme_of_not_scheme (hscheme : ¬"unix:".toList <+: base.toList) :
    withoutScheme base = base := by
  rw [withoutScheme,
    Text.stripPrefix_eq_none_iff.mpr (not_slashes_of_not_scheme hscheme),
    Text.stripPrefix_eq_none_iff.mpr hscheme]
  rfl

theorem withoutScheme_slashes (path : String) : withoutScheme ("unix://" ++ path) = path := by
  rw [withoutScheme, Text.stripPrefix_append]
  rfl

theorem withoutScheme_scheme {rest : String} (hrest : ¬['/', '/'] <+: rest.toList) :
    withoutScheme ("unix:" ++ rest) = rest := by
  rw [withoutScheme, stripPrefix_slashes_eq_none hrest, Text.stripPrefix_append]
  rfl

/-- Both dial the socket of the domain. -/
def SocketAlike (base domain : String) (raw : String) : Prop :=
  (probeEndpoint raw).Same (channelEndpoint raw) ∧
    (probeEndpoint raw).IsSocket (withoutScheme base ++ ("/ch-" ++ domain ++ ".sock")) ∧
    (channelEndpoint raw).IsSocket (withoutScheme base ++ ("/ch-" ++ domain ++ ".sock"))

/-- Behind `unix:` both read the rest, unless the client strips two slashes. -/
theorem socketAlike_scheme {rest : String} (hrest : ¬['/', '/'] <+: rest.toList)
    (hslash : rest ≠ "/") :
    SocketAlike ("unix:" ++ rest) domain
      ("unix:" ++ rest ++ ("/ch-" ++ domain ++ ".sock")) := by
  have hraw : ¬['/', '/'] <+: (rest ++ ("/ch-" ++ domain ++ ".sock")).toList := by
    rw [starts_socket_iff (by decide)]
    rintro (hstarts | heq)
    · exact hrest hstarts
    · apply hslash
      rw [← String.toList_inj]
      exact (List.append_left_inj ['/']).mp heq.symm
  rw [SocketAlike, channelEndpoint, String.append_assoc, detectUdsPath_scheme hraw,
    probeEndpoint_scheme, withoutScheme_scheme hrest]
  exact ⟨rfl, rfl, rfl⟩

/-- Behind `unix://` two slashes more must make no difference. -/
theorem socketAlike_slashes_iff {path : String} :
    SocketAlike ("unix://" ++ path) domain
        ("unix://" ++ path ++ ("/ch-" ++ domain ++ ".sock")) ↔
      path = "" ∨ ['/'] <+: path.toList := by
  rw [← @absolute_socket_iff path domain, ← UnixPath.same_separators_iff,
    SocketAlike, channelEndpoint, String.append_assoc, detectUdsPath_slashes,
    probeEndpoint_slashes, withoutScheme_slashes]
  constructor
  · exact fun halike => halike.1
  · exact fun hsame => ⟨hsame, hsame, rfl⟩

/-- The base `unix:/` and the separator after it read as `unix://`. -/
theorem not_socketAlike_slash :
    ¬SocketAlike "unix:/" domain ("unix:/" ++ ("/ch-" ++ domain ++ ".sock")) := by
  have hraw : "unix:/" ++ ("/ch-" ++ domain ++ ".sock") =
      "unix://" ++ ("ch-" ++ (domain ++ ".sock")) := by
    rw [String.append_assoc, ← String.append_assoc, ← String.append_assoc]
    rfl
  rw [SocketAlike, channelEndpoint, hraw, detectUdsPath_slashes, probeEndpoint_slashes]
  rintro ⟨hsame, -⟩
  have habsolute := UnixPath.same_separators_iff.mp hsame
  rw [String.toList_append] at habsolute
  exact absurd (List.cons_prefix_cons.mp habsolute).1 (by decide)

theorem socketAlike_of_not_scheme_iff (hscheme : ¬"unix:".toList <+: base.toList) :
    SocketAlike base domain (base ++ ("/ch-" ++ domain ++ ".sock")) ↔
      base = "" ∨ ['/'] <+: base.toList := by
  rw [SocketAlike, channelEndpoint, detectUdsPath_of_not_scheme (not_starts_scheme hscheme),
    probeEndpoint_of_not_scheme (not_starts_scheme hscheme),
    withoutScheme_of_not_scheme hscheme, ← @absolute_socket_iff base domain]
  by_cases habsolute : ['/'] <+: (base ++ ("/ch-" ++ domain ++ ".sock")).toList
  · simp only [habsolute, true_or, if_true, iff_true]
    exact ⟨rfl, rfl, rfl⟩
  · simp only [habsolute, if_false, iff_false]
    rintro ⟨-, hprobe, -⟩
    exact hprobe

theorem commonForm_scheme_iff {rest : String} :
    CommonForm ("unix:" ++ rest) ↔ rest ≠ "/" ∧
      ∀ path, rest = "//" ++ path → path = "" ∨ ['/'] <+: path.toList := by
  have hhead : ("unix:" ++ rest).toList.head? = some 'u' := by
    rw [String.toList_append]
    rfl
  constructor
  · rintro (hempty | habsolute | ⟨rest', heq, hform⟩)
    · rw [hempty] at hhead
      cases hhead
    · rw [List.singleton_prefix_iff_head?_eq_some, hhead] at habsolute
      cases habsolute
    · rw [String.append_right_inj] at heq
      rw [heq]
      exact hform
  · exact fun hform => Or.inr (Or.inr ⟨rest, rfl, hform⟩)

/-- Behind `unix:`, with or without two slashes after it. -/
theorem socketAlike_scheme_iff {rest : String} :
    SocketAlike ("unix:" ++ rest) domain
        ("unix:" ++ rest ++ ("/ch-" ++ domain ++ ".sock")) ↔
      rest ≠ "/" ∧ ∀ path, rest = "//" ++ path → path = "" ∨ ['/'] <+: path.toList := by
  by_cases hslashes : "//".toList <+: rest.toList
  · obtain ⟨path, rfl⟩ := Text.exists_append_of_prefix hslashes
    have hne : "//" ++ path ≠ "/" := by
      intro heq
      have hlength := congrArg String.length heq
      rw [String.length_append] at hlength
      change 2 + path.length = 1 at hlength
      omega
    have hjoin : "unix:" ++ ("//" ++ path) = "unix://" ++ path := by
      rw [← String.append_assoc]
      rfl
    rw [hjoin, socketAlike_slashes_iff]
    constructor
    · intro hpath
      refine ⟨hne, fun path' heq => ?_⟩
      rw [String.append_right_inj] at heq
      rwa [← heq]
    · exact fun hform => hform.2 path rfl
  · have hpaths : ∀ path, rest = "//" ++ path → path = "" ∨ ['/'] <+: path.toList := by
      rintro path rfl
      exact absurd (by simp) hslashes
    by_cases hslash : rest = "/"
    · subst hslash
      constructor
      · exact fun halike => absurd halike not_socketAlike_slash
      · exact fun hform => absurd rfl hform.1
    · exact iff_of_true (socketAlike_scheme hslashes hslash) ⟨hslash, hpaths⟩

/-- In standalone mode both dial the domain's socket just for the common forms. -/
theorem socketAlike_iff :
    SocketAlike base domain (base ++ ("/ch-" ++ domain ++ ".sock")) ↔ CommonForm base := by
  by_cases hscheme : "unix:".toList <+: base.toList
  · obtain ⟨rest, rfl⟩ := Text.exists_append_of_prefix hscheme
    rw [socketAlike_scheme_iff, commonForm_scheme_iff]
  · rw [socketAlike_of_not_scheme_iff hscheme, CommonForm]
    constructor
    · rintro (hempty | habsolute)
      · exact Or.inl hempty
      · exact Or.inr (Or.inl habsolute)
    · rintro (hempty | habsolute | ⟨rest, rfl, -⟩)
      · exact Or.inl hempty
      · exact Or.inr habsolute
      · exact absurd (by simp) hscheme

end Standalone

/-- What `resolve_ch_endpoint` yields, mode by mode. -/
theorem resolveChEndpoint_cases {env : Env} {domain raw : String}
    (hraw : resolveChEndpoint env domain none none none none = .ok raw) :
    (TransportMode.fromEnv env = .ok .standalone ∧
        raw = effectiveUdsBase env none ++ ("/ch-" ++ domain ++ ".sock")) ∨
      (TransportMode.fromEnv env = .ok .distributed ∧ "ch-".toList <+: raw.toList) := by
  rw [resolveChEndpoint] at hraw
  cases hmode : TransportMode.fromEnv env with
  | error error => rw [hmode] at hraw; cases hraw
  | ok mode =>
      rw [hmode] at hraw
      cases mode with
      | standalone =>
          cases hraw
          refine Or.inl ⟨rfl, ?_⟩
          simp only [String.append_assoc]
      | distributed =>
          refine Or.inr ⟨rfl, ?_⟩
          cases hport : effectivePort env none with
          | error error => rw [hport] at hraw; cases hraw
          | ok p =>
              rw [hport] at hraw
              cases hraw
              simp only [String.append_assoc]
              rw [String.toList_append]
              exact List.prefix_append _ _

theorem same_of_distributed {raw : String} (hraw : "ch-".toList <+: raw.toList) :
    (probeEndpoint raw).Same (channelEndpoint raw) := by
  obtain ⟨rest, rfl⟩ := Text.exists_append_of_prefix hraw
  have hscheme : ¬"unix:".toList <+: ("ch-" ++ rest).toList := by
    rw [String.toList_append]
    intro hstarts
    exact absurd (List.cons_prefix_cons.mp hstarts).1 (by decide)
  have hpath : ¬['/'] <+: ("ch-" ++ rest).toList ∧ ¬['.', '/'] <+: ("ch-" ++ rest).toList := by
    rw [String.toList_append]
    constructor
    · intro hstarts
      exact absurd (List.cons_prefix_cons.mp hstarts).1 (by decide)
    · intro hstarts
      exact absurd (List.cons_prefix_cons.mp hstarts).1 (by decide)
  rw [probeEndpoint_of_not_scheme hscheme, channelEndpoint,
    detectUdsPath_of_not_scheme hscheme, if_neg hpath.1, if_neg (not_or.mpr hpath)]
  rfl

/-- Where the endpoint of a domain resolves, its probe and its client dial the
same place, in standalone mode the domain's socket, if and only if in standalone
mode the base path has a form both read alike. -/
theorem dial_alike_iff {env : Env} {domain : String} {probe : OutputDomainProbe}
    {client : Endpoint} (hprobe : OutputDomainProbe.forDomain env domain = .ok probe)
    (hclient : DomainClient.forDomain env domain = .ok client) :
    DialAlike env domain probe.endpoint client ↔
      (TransportMode.fromEnv env = .ok .standalone →
        CommonForm (effectiveUdsBase env none)) := by
  obtain ⟨raw, hraw⟩ : ∃ raw, resolveChEndpoint env domain none none none none = .ok raw := by
    cases hresolved : resolveChEndpoint env domain none none none none with
    | error error => rw [DomainClient.forDomain, hresolved] at hclient; cases hclient
    | ok raw => exact ⟨raw, rfl⟩
  rw [OutputDomainProbe.forDomain, hraw] at hprobe
  rw [DomainClient.forDomain, hraw] at hclient
  cases hprobe
  cases hclient
  rcases resolveChEndpoint_cases hraw with ⟨hmode, rfl⟩ | ⟨hmode, hstarts⟩
  · have hpath : socketPath (effectiveUdsBase env none) domain =
        withoutScheme (effectiveUdsBase env none) ++ ("/ch-" ++ domain ++ ".sock") := by
      rw [socketPath]
      simp only [String.append_assoc]
    rw [← @socketAlike_iff _ domain]
    constructor
    · rintro ⟨hsame, hstandalone⟩ -
      rw [SocketAlike, ← hpath]
      exact ⟨hsame, hstandalone hmode⟩
    · intro halike
      obtain ⟨hsame, hsockets⟩ := halike hmode
      rw [← hpath] at hsockets
      exact ⟨hsame, fun _ => hsockets⟩
  · have hdistributed : TransportMode.fromEnv env ≠ .ok .standalone := by
      rw [hmode]
      simp
    exact iff_of_true
      ⟨same_of_distributed hstarts, fun hstandalone => absurd hstandalone hdistributed⟩
      fun hstandalone => absurd hstandalone hdistributed

namespace Sample

/-- Standalone mode under a base path. -/
def standalone (base : String) : Env := fun name =>
  if name = envMode then some "standalone"
  else if name = envUdsBase then some base
  else none

end Sample

open Sample in
/-- A base path relative to the working directory: the client dials the socket,
the probe takes its path for an address. -/
theorem relative_base_is_probed_as_address :
    ∃ probe client, OutputDomainProbe.forDomain (standalone "./run") "player" = .ok probe ∧
      DomainClient.forDomain (standalone "./run") "player" = .ok client ∧
      client = .uds "./run/ch-player.sock" ∧
      probe.endpoint = .tcp "./run/ch-player.sock" ∧
      ¬DialAlike (standalone "./run") "player" probe.endpoint client :=
  ⟨⟨"player", .tcp "./run/ch-player.sock"⟩, .uds "./run/ch-player.sock", by rfl, by rfl,
    rfl, rfl, fun halike => halike.same⟩

open Sample in
/-- Behind `unix://` an absolute base path is read alike. -/
theorem dial_alike_iff_sample :
    DialAlike (standalone "unix:///run") "player" (.uds "///run/ch-player.sock")
      (.uds "/run/ch-player.sock") := by
  have hprobe : OutputDomainProbe.forDomain (standalone "unix:///run") "player" =
      .ok ⟨"player", .uds "///run/ch-player.sock"⟩ := by rfl
  have hclient : DomainClient.forDomain (standalone "unix:///run") "player" =
      .ok (.uds "/run/ch-player.sock") := by rfl
  apply (dial_alike_iff hprobe hclient).mpr
  rintro -
  refine Or.inr (Or.inr ⟨"///run", rfl, by decide, ?_⟩)
  intro path heq
  have hpath : "//" ++ "/run" = "//" ++ path := heq
  rw [String.append_right_inj] at hpath
  subst hpath
  exact Or.inr (by decide)

end AngzarrClient
