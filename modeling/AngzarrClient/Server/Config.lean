/-
Where a runner listens (`ServerConfig`, `run_kind` in `server.rs`), and which of the
runners under one base path a client reaches.  A runner that starts removes the socket
file at its path and binds its own; one that ends leaves its file behind.
-/
import AngzarrClient.Client.Dial
import Mathlib.Data.List.Induction

namespace AngzarrClient

def envServerUdsBase := "UDS_BASE_PATH"
def envServiceName := "SERVICE_NAME"
def envDomain := "DOMAIN"
def envPort := "PORT"
def envGrpcPort := "GRPC_PORT"
def envBindAddress := "ANGZARR_BIND_ADDRESS"
def defaultBindHost := "[::]"

/-- `ServerConfig`. -/
structure ServerConfig where
  port : UInt16
  udsPath : Option String
deriving DecidableEq, Repr

/-- The file name of a runner's socket. -/
def socketName (serviceName domain : String) : String :=
  serviceName ++ "-" ++ domain ++ ".sock"

/-- `ServerConfig::from_env`. -/
def ServerConfig.fromEnv (env : Env) (defaultPort : UInt16) : ServerConfig :=
  match env envServerUdsBase, env envServiceName, env envDomain with
  | some basePath, some serviceName, some domain =>
      { port := defaultPort
        udsPath := some (UnixPath.join basePath (socketName serviceName domain)) }
  | _, _, _ =>
      -- a `PORT` that is no port is not looked up under the other name
      { port := (((env envPort).or (env envGrpcPort)).bind parseU16).getD defaultPort
        udsPath := none }

/-- `get_transport_config`. -/
def getTransportConfig (env : Env) (defaultPort : UInt16) : ServerConfig :=
  ServerConfig.fromEnv env defaultPort

/-- `resolve_bind_address`. -/
def resolveBindAddress (env : Env) (defaultPort : UInt16) : String :=
  (env envBindAddress).getD (defaultBindHost ++ ":" ++ toString defaultPort.toNat)

/-- Where `run_kind` binds. -/
def ServerConfig.endpoint (env : Env) (config : ServerConfig) : Endpoint :=
  match config.udsPath with
  | some path => .uds path
  | none => .tcp (resolveBindAddress env config.port)

namespace Hosting

/-- A process is named by the number of starts before its own. -/
abbrev Process := Nat

/-- The socket files, by what their paths name; a file outlives its process. -/
structure Host where
  sockets : List UnixPath.Component → Option Process := fun _ => none
  running : List Process := []
  started : Nat := 0

/-- A runner starts in an environment, or a process ends. -/
inductive Step
  | start (env : Env) (defaultPort : UInt16)
  | stop (process : Process)

/-- The file a starting runner writes, if it listens on a socket. -/
def Step.socket : Step → Option String
  | .start env defaultPort => (getTransportConfig env defaultPort).udsPath
  | .stop _ => none

/-- `cleanup_socket` and `UnixListener::bind`: the file at the path is the new
process's. -/
def bindSocket (sockets : List UnixPath.Component → Option Process) (path : String)
    (process : Process) : List UnixPath.Component → Option Process :=
  fun other => if other = UnixPath.components path.toList then some process
    else sockets other

def Host.step (host : Host) : Step → Host
  | .start env defaultPort =>
      { sockets := match (Step.start env defaultPort).socket with
          | some path => bindSocket host.sockets path host.started
          | none => host.sockets
        running := host.started :: host.running
        started := host.started + 1 }
  | .stop process => { host with running := host.running.filter (· ≠ process) }

/-- The host after these steps. -/
def run (steps : List Step) : Host := steps.foldl Host.step {}

/-- Whom a client that connects to the socket at `path` reaches: the process that
bound the file, while it runs. -/
def Host.connect (host : Host) (path : String) : Option Process :=
  (host.sockets (UnixPath.components path.toList)).filter (· ∈ host.running)

/-- The step writes the socket file at `path`. -/
def Step.BindsAt (path : String) (step : Step) : Prop :=
  ∃ socket, step.socket = some socket ∧ UnixPath.Same socket path

/-- Every file was bound by a process that has started. -/
def Host.Bounded (host : Host) : Prop :=
  ∀ key process, host.sockets key = some process → process < host.started

section Connect

variable {host : Host} {path : String} {steps : List Step}

theorem run_concat (steps : List Step) (step : Step) :
    run (steps ++ [step]) = (run steps).step step := by
  rw [run, List.foldl_append]
  rfl

theorem connect_eq_some_iff {process : Process} :
    host.connect path = some process ↔
      host.sockets (UnixPath.components path.toList) = some process ∧
        process ∈ host.running := by
  rw [Host.connect, Option.filter_eq_some_iff, decide_eq_true_iff]

theorem sockets_start (env : Env) (defaultPort : UInt16)
    (key : List UnixPath.Component) :
    (host.step (.start env defaultPort)).sockets key =
      match (Step.start env defaultPort).socket with
      | some socket => bindSocket host.sockets socket host.started key
      | none => host.sockets key := by
  rw [Host.step]
  cases (Step.start env defaultPort).socket with
  | none => rfl
  | some socket => rfl

/-- A start that does not bind the file leaves it. -/
theorem sockets_start_of_not_bindsAt {env : Env} {defaultPort : UInt16}
    (hbinds : ¬(Step.start env defaultPort).BindsAt path) :
    (host.step (.start env defaultPort)).sockets (UnixPath.components path.toList) =
      host.sockets (UnixPath.components path.toList) := by
  rw [sockets_start]
  cases hsocket : (Step.start env defaultPort).socket with
  | none => rfl
  | some socket => exact if_neg fun hkey => hbinds ⟨socket, hsocket, hkey.symm⟩

theorem Host.Bounded.step (hbounded : host.Bounded) (next : Step) :
    (host.step next).Bounded := by
  intro key process hkey
  cases next with
  | stop stopped => exact hbounded key process hkey
  | start env defaultPort =>
      have hold : host.sockets key = some process → process < host.started + 1 :=
        fun hsocket => Nat.lt_succ_of_lt (hbounded key process hsocket)
      rw [sockets_start] at hkey
      cases hsocket : (Step.start env defaultPort).socket with
      | none =>
          rw [hsocket] at hkey
          exact hold hkey
      | some socket =>
          rw [hsocket] at hkey
          dsimp only at hkey
          rw [bindSocket] at hkey
          split at hkey
          · cases hkey
            exact Nat.lt_succ_self _
          · exact hold hkey

theorem bounded_run (steps : List Step) : (run steps).Bounded := by
  suffices hfold : ∀ host : Host, host.Bounded → (steps.foldl Host.step host).Bounded from
    hfold {} fun key process hkey => by cases hkey
  induction steps with
  | nil => exact fun host hbounded => hbounded
  | cons step rest ih => exact fun host hbounded => ih _ (hbounded.step step)

/-- A runner that binds the file is the one reached. -/
theorem connect_step_of_bindsAt {next : Step} (hbinds : next.BindsAt path) :
    (host.step next).connect path = some host.started := by
  obtain ⟨socket, hsocket, hsame⟩ := hbinds
  cases next with
  | stop process => cases hsocket
  | start env defaultPort =>
      rw [connect_eq_some_iff, sockets_start, hsocket]
      exact ⟨if_pos hsame.symm, List.mem_cons_self⟩

/-- Another step keeps whom a client reaches, but for the end of that process. -/
theorem connect_step_of_not_bindsAt {next : Step} (hbounded : host.Bounded)
    (hbinds : ¬next.BindsAt path) (process : Process) :
    (host.step next).connect path = some process ↔
      host.connect path = some process ∧ next ≠ .stop process := by
  rw [connect_eq_some_iff, connect_eq_some_iff, and_assoc]
  cases next with
  | start env defaultPort =>
      rw [sockets_start_of_not_bindsAt hbinds]
      apply and_congr_right
      intro hsocket
      have hne : process ≠ host.started := Nat.ne_of_lt (hbounded _ process hsocket)
      simp [Host.step, hne]
  | stop stopped =>
      have hrunning : process ∈ (host.step (.stop stopped)).running ↔
          process ∈ host.running ∧ process ≠ stopped := by
        rw [Host.step, List.mem_filter, decide_eq_true_iff]
      rw [hrunning, ne_eq, ne_eq, Step.stop.injEq, @eq_comm _ stopped]
      rfl

/-- The last step of a run that was cut before it. -/
theorem concat_eq_split {before after : List Step} {next other last : Step}
    (hsteps : steps ++ [next] = before ++ other :: (after ++ [last])) :
    steps = before ++ other :: after ∧ next = last := by
  have hsplit : steps ++ [next] = (before ++ other :: after) ++ [last] := by
    simpa using hsteps
  obtain ⟨hfront, hlast⟩ := List.append_inj' hsplit rfl
  exact ⟨hfront, List.singleton_inj.mp hlast⟩

/-- Over any run of starts and ends, a client reaches the process that was the last to
bind the file, until it ends. -/
theorem connect_run_eq_some_iff {process : Process} :
    (run steps).connect path = some process ↔
      ∃ before next after, steps = before ++ next :: after ∧ next.BindsAt path ∧
        process = (run before).started ∧ (∀ later ∈ after, ¬later.BindsAt path) ∧
        .stop process ∉ after := by
  induction steps using List.reverseRecOn with
  | nil =>
      constructor
      · intro hconnect
        cases hconnect
      · rintro ⟨before, next, after, hsteps, -⟩
        simp at hsteps
  | append_singleton steps next ih =>
      rw [run_concat]
      by_cases hbinds : next.BindsAt path
      · rw [connect_step_of_bindsAt hbinds]
        constructor
        · intro hprocess
          exact ⟨steps, next, [], rfl, hbinds, (Option.some.inj hprocess).symm, by simp, by simp⟩
        · rintro ⟨before, other, after, hsteps, -, hprocess, hlater, -⟩
          rcases List.eq_nil_or_concat' after with rfl | ⟨after, last, rfl⟩
          · rw [hprocess, (List.append_inj' hsteps rfl).1]
          · obtain ⟨-, rfl⟩ := concat_eq_split hsteps
            exact absurd hbinds (hlater next (by simp))
      · rw [connect_step_of_not_bindsAt (bounded_run steps) hbinds, ih]
        constructor
        · rintro ⟨⟨before, other, after, rfl, hother, hprocess, hlater, hstop⟩, hne⟩
          refine ⟨before, other, after ++ [next], by simp, hother, hprocess, ?_, ?_⟩
          · simpa [or_imp, forall_and] using ⟨hlater, hbinds⟩
          · simpa using ⟨hstop, fun heq => hne heq.symm⟩
        · rintro ⟨before, other, after, hsteps, hother, hprocess, hlater, hstop⟩
          rcases List.eq_nil_or_concat' after with rfl | ⟨after, last, rfl⟩
          · obtain ⟨-, hlast⟩ := List.append_inj' hsteps rfl
            obtain rfl : next = other := List.singleton_inj.mp hlast
            exact absurd hother hbinds
          · obtain ⟨rfl, rfl⟩ := concat_eq_split hsteps
            refine ⟨⟨before, other, after, rfl, hother, hprocess, ?_, ?_⟩, ?_⟩
            · exact fun later hmem => hlater later (by simp [hmem])
            · exact fun hmem => hstop (by simp [hmem])
            · rintro rfl
              exact hstop (by simp)

end Connect

end Hosting

/-- The environment of a runner that listens under the base path, with a service name
and a domain that have no slash. -/
structure HostedUnder (basePath serviceName domain : String) (env : Env) : Prop where
  base_eq : env envServerUdsBase = some basePath
  service_eq : env envServiceName = some serviceName
  domain_eq : env envDomain = some domain
  service_noSlash : '/' ∉ serviceName.toList
  domain_noSlash : '/' ∉ domain.toList

/-- The socket of a runner is the one at which a client looks for the domain. -/
def Answers (serviceName domain clientDomain : String) : Prop :=
  (serviceName = "ch" ∧ domain = clientDomain) ∨
    ∃ rest, serviceName = "ch-" ++ rest ∧ clientDomain = rest ++ "-" ++ domain

section Names

variable {basePath service service' domain domain' : String} {env : Env}

theorem socketName_toList :
    (socketName service domain).toList =
      (service.toList ++ '-' :: domain.toList) ++ ".sock".toList := by
  simp [socketName]

theorem socketName_eq_iff :
    socketName service domain = socketName service' domain' ↔
      service.toList ++ '-' :: domain.toList = service'.toList ++ '-' :: domain'.toList := by
  rw [← String.toList_inj, socketName_toList, socketName_toList, List.append_left_inj]

theorem not_slash_mem_socketName (hservice : '/' ∉ service.toList)
    (hdomain : '/' ∉ domain.toList) : '/' ∉ (socketName service domain).toList := by
  rw [socketName_toList]
  simpa [hservice] using hdomain

/-- A socket's name without a slash is one component. -/
theorem names_socketName (hservice : '/' ∉ service.toList) (hdomain : '/' ∉ domain.toList) :
    UnixPath.names (socketName service domain).toList =
      [.named (socketName service domain).toList] := by
  have hdash : '-' ∈ (socketName service domain).toList := by
    rw [socketName_toList]
    simp
  apply UnixPath.names_of_single (not_slash_mem_socketName hservice hdomain)
  · exact List.ne_nil_of_mem hdash
  · intro heq
    rw [heq] at hdash
    exact absurd hdash (by decide)

theorem head?_socketName_ne (hservice : '/' ∉ service.toList) (hdomain : '/' ∉ domain.toList) :
    (socketName service domain).toList.head? ≠ some '/' :=
  fun hhead => not_slash_mem_socketName hservice hdomain (List.mem_of_head? hhead)

/-- Under an absolute base, runners share a socket just where their names join alike. -/
theorem same_socket_iff (hbase : basePath.toList.head? = some '/')
    (hservice : '/' ∉ service.toList) (hdomain : '/' ∉ domain.toList)
    (hservice' : '/' ∉ service'.toList) (hdomain' : '/' ∉ domain'.toList) :
    UnixPath.Same (UnixPath.join basePath (socketName service domain))
        (UnixPath.join basePath (socketName service' domain')) ↔
      socketName service domain = socketName service' domain' := by
  rw [UnixPath.same_joined_iff hbase (head?_socketName_ne hservice hdomain)
    (head?_socketName_ne hservice' hdomain'), names_socketName hservice hdomain,
    names_socketName hservice' hdomain', List.singleton_inj, UnixPath.Component.named.injEq,
    String.toList_inj]

/-- Among the names without a slash, no runner of another service or domain under the
base has this one's socket. -/
def SocketIdentifies (basePath service domain : String) : Prop :=
  ∀ service' domain', '/' ∉ service'.toList → '/' ∉ domain'.toList →
    UnixPath.Same (UnixPath.join basePath (socketName service domain))
        (UnixPath.join basePath (socketName service' domain')) →
      service = service' ∧ domain = domain'

/-- Among names without a slash, a socket tells whose it is if and only if neither name
has a hyphen; otherwise another runner starts by removing this one's socket and takes
its place. -/
theorem socket_identifies_iff (hbase : basePath.toList.head? = some '/')
    (hservice : '/' ∉ service.toList) (hdomain : '/' ∉ domain.toList) :
    SocketIdentifies basePath service domain ↔
      '-' ∉ service.toList ∧ '-' ∉ domain.toList := by
  rw [← Text.cut_unique_iff]
  constructor
  · intro hidentifies front back hcut
    have hslash : '/' ∉ front ++ '-' :: back := by
      rw [← hcut]
      simpa [hservice] using hdomain
    rw [List.mem_append, not_or, List.mem_cons, not_or] at hslash
    have hfront : '/' ∉ (String.ofList front).toList := by simpa using hslash.1
    have hback : '/' ∉ (String.ofList back).toList := by simpa using hslash.2.2
    have hsame := (same_socket_iff hbase hservice hdomain hfront hback).mpr
      (socketName_eq_iff.mpr (by simpa using hcut))
    rw [(hidentifies _ _ hfront hback hsame).1, String.toList_ofList]
  · intro hunique service' domain' hservice' hdomain' hsame
    have hname := socketName_eq_iff.mp
      ((same_socket_iff hbase hservice hdomain hservice' hdomain').mp hsame)
    have hfront := hunique _ _ hname
    rw [← hfront, List.append_cancel_left_eq, List.cons.injEq] at hname
    exact ⟨String.toList_inj.mp hfront, String.toList_inj.mp hname.2⟩

/-- The runners whose socket is named like the one of a command handler. -/
theorem socketName_ch_iff :
    socketName service domain = socketName "ch" domain' ↔ Answers service domain domain' := by
  rw [socketName_eq_iff, Text.append_separator_eq_iff, Answers, String.toList_inj,
    String.toList_inj]
  apply or_congr_right
  constructor
  · rintro (⟨middle, hmiddle, -⟩ | ⟨middle, hservice, hdomain⟩)
    · exact absurd (hmiddle ▸ by simp : '-' ∈ "ch".toList) (by decide)
    · refine ⟨String.ofList middle, String.toList_inj.mp ?_, String.toList_inj.mp ?_⟩
      · rw [hservice]
        simp
      · rw [hdomain]
        simp
  · rintro ⟨rest, rfl, rfl⟩
    exact Or.inr ⟨rest.toList, by simp, by simp⟩

/-- The socket of a runner under an absolute base is the one a client looks for just
where the names join alike. -/
theorem HostedUnder.bindsAt_iff (hhosted : HostedUnder basePath service domain env)
    (hbase : basePath.toList.head? = some '/') (hclient : '/' ∉ domain'.toList)
    (defaultPort : UInt16) :
    (Hosting.Step.start env defaultPort).BindsAt
        (basePath ++ ("/" ++ socketName "ch" domain')) ↔
      Answers service domain domain' := by
  have hrelative := head?_socketName_ne hhosted.service_noSlash hhosted.domain_noSlash
  have hsocket : (Hosting.Step.start env defaultPort).socket =
      some (UnixPath.join basePath (socketName service domain)) := by
    rw [Hosting.Step.socket, getTransportConfig, ServerConfig.fromEnv, hhosted.base_eq,
      hhosted.service_eq, hhosted.domain_eq]
  have hsame := @UnixPath.same_join_iff _ _ (socketName "ch" domain') hbase hrelative
  rw [names_socketName hhosted.service_noSlash hhosted.domain_noSlash,
    names_socketName (by decide) hclient, List.singleton_inj, UnixPath.Component.named.injEq,
    String.toList_inj, socketName_ch_iff] at hsame
  rw [← hsame]
  constructor
  · rintro ⟨socket, heq, hsame⟩
    rw [hsocket] at heq
    exact Option.some.inj heq ▸ hsame
  · intro hpath
    exact ⟨_, hsocket, hpath⟩

end Names

section Clients

variable {basePath domain : String} {env : Env}

/-- An absolute path is dialled as it is. -/
theorem channelEndpoint_of_absolute {raw : String} (habsolute : raw.toList.head? = some '/') :
    channelEndpoint raw = .uds raw := by
  have hscheme : ¬"unix:".toList <+: raw.toList := by
    rintro ⟨rest, hrest⟩
    rw [← hrest] at habsolute
    cases habsolute
  rw [channelEndpoint, detectUdsPath_of_not_scheme hscheme, if_pos]
  exact Or.inl (List.singleton_prefix_iff_head?_eq_some.mpr habsolute)

/-- The socket a client dials in standalone mode under an absolute base. -/
theorem forDomain_of_standalone (hmode : TransportMode.fromEnv env = .ok .standalone)
    (hbase : (effectiveUdsBase env none).toList.head? = some '/') :
    DomainClient.forDomain env domain =
      .ok (.uds (effectiveUdsBase env none ++ ("/" ++ socketName "ch" domain))) := by
  have hpath : effectiveUdsBase env none ++ "/ch-" ++ domain ++ ".sock" =
      effectiveUdsBase env none ++ ("/" ++ socketName "ch" domain) := by
    apply String.toList_inj.mp
    simp [socketName]
  rw [DomainClient.forDomain, resolveChEndpoint, hmode]
  change Except.ok (channelEndpoint _) = _
  rw [hpath, channelEndpoint_of_absolute (by simp [List.head?_append, hbase])]

/-- An end of a process binds nothing. -/
theorem not_bindsAt_stop {path : String} (process : Hosting.Process) :
    ¬(Hosting.Step.stop process).BindsAt path := by
  rintro ⟨socket, hsocket, -⟩
  cases hsocket

/-- A runner that listens elsewhere, or under the base, binds the client's socket just
where its names answer. -/
theorem bindsAt_iff_of_hosts {host : Env} {defaultPort : UInt16}
    (hbase : basePath.toList.head? = some '/') (hdomain : '/' ∉ domain.toList)
    (hhost : (getTransportConfig host defaultPort).udsPath = none ∨
      ∃ service name, HostedUnder basePath service name host) :
    (Hosting.Step.start host defaultPort).BindsAt
        (basePath ++ ("/" ++ socketName "ch" domain)) ↔
      ∃ service name, HostedUnder basePath service name host ∧
        Answers service name domain := by
  constructor
  · intro hbinds
    rcases hhost with hnone | ⟨service, name, hhosted⟩
    · obtain ⟨socket, hsocket, -⟩ := hbinds
      rw [Hosting.Step.socket, hnone] at hsocket
      cases hsocket
    · exact ⟨service, name, hhosted, (hhosted.bindsAt_iff hbase hdomain defaultPort).mp hbinds⟩
  · rintro ⟨service, name, hhosted, hanswers⟩
    exact (hhosted.bindsAt_iff hbase hdomain defaultPort).mpr hanswers

/-- Clients and runners of one host in standalone mode, under one absolute base path
and with names that have no slash: over any run of starts and ends, the client of a
domain reaches the last process to start whose service and domain join to its own
socket's name, until that process ends.
That is the domain's command handler, or another service whose name takes a part of the
domain. -/
theorem clients_reach_last_start (hmode : TransportMode.fromEnv env = .ok .standalone)
    (hclientBase : effectiveUdsBase env none = basePath)
    (hbase : basePath.toList.head? = some '/') (hdomain : '/' ∉ domain.toList)
    {steps : List Hosting.Step}
    (hhosts : ∀ host defaultPort, .start host defaultPort ∈ steps →
      (getTransportConfig host defaultPort).udsPath = none ∨
        ∃ service name, HostedUnder basePath service name host) :
    ∃ path, DomainClient.forDomain env domain = .ok (.uds path) ∧
      ∀ process, (Hosting.run steps).connect path = some process ↔
        ∃ before host defaultPort after,
          steps = before ++ .start host defaultPort :: after ∧
          process = (Hosting.run before).started ∧
          (∃ service name, HostedUnder basePath service name host ∧
            Answers service name domain) ∧
          (∀ later port, .start later port ∈ after → ∀ service name,
            HostedUnder basePath service name later → ¬Answers service name domain) ∧
          .stop process ∉ after := by
  subst hclientBase
  refine ⟨_, forDomain_of_standalone hmode hbase, fun process => ?_⟩
  rw [Hosting.connect_run_eq_some_iff]
  constructor
  · rintro ⟨before, next, after, rfl, hbinds, hprocess, hlater, hstop⟩
    cases next with
    | stop stopped => exact absurd hbinds (not_bindsAt_stop stopped)
    | start host defaultPort =>
        refine ⟨before, host, defaultPort, after, rfl, hprocess,
          (bindsAt_iff_of_hosts hbase hdomain (hhosts host defaultPort (by simp))).mp hbinds,
          fun later port hmem service name hhosted hanswers => ?_, hstop⟩
        exact hlater _ hmem ((hhosted.bindsAt_iff hbase hdomain port).mpr hanswers)
  · rintro ⟨before, host, defaultPort, after, rfl, hprocess, hhosted, hlater, hstop⟩
    refine ⟨before, _, after, rfl, ?_, hprocess, fun later hmem hbinds => ?_, hstop⟩
    · exact (bindsAt_iff_of_hosts hbase hdomain (hhosts host defaultPort (by simp))).mpr hhosted
    · cases later with
      | stop stopped => exact not_bindsAt_stop stopped hbinds
      | start other port =>
          obtain ⟨service, name, hunder, hanswers⟩ := (bindsAt_iff_of_hosts hbase hdomain
            (hhosts other port (by simp [hmem]))).mp hbinds
          exact hlater other port hmem service name hunder hanswers

end Clients

namespace Sample

/-- The environment of a service under a base path. -/
def hosted (basePath service domain : String) : Env := fun name =>
  if name = envServerUdsBase then some basePath
  else if name = envServiceName then some service
  else if name = envDomain then some domain
  else none

theorem hosted_under (basePath : String) {service domain : String}
    (hservice : '/' ∉ service.toList) (hdomain : '/' ∉ domain.toList) :
    HostedUnder basePath service domain (hosted basePath service domain) where
  base_eq := by rfl
  service_eq := by rfl
  domain_eq := by rfl
  service_noSlash := hservice
  domain_noSlash := hdomain

/-- A handler, a saga of the same domain, the handler once more; then the first one
ends. -/
def restart : List Hosting.Step :=
  [.start (hosted "/run" "ch" "player") 1310, .start (hosted "/run" "saga" "player") 1310,
    .start (hosted "/run" "ch" "player") 1310, .stop 0]

end Sample

open Sample in
/-- The client of the domain reaches the handler's second process. -/
theorem clients_reach_last_start_sample :
    ∃ path, DomainClient.forDomain (standalone "/run") "player" = .ok (.uds path) ∧
      (Hosting.run restart).connect path = some 2 := by
  have hmode : TransportMode.fromEnv (standalone "/run") = .ok .standalone := by rfl
  have hbase : effectiveUdsBase (standalone "/run") none = "/run" := by rfl
  have hplayer := hosted_under "/run" (by decide : '/' ∉ "ch".toList)
    (by decide : '/' ∉ "player".toList)
  have hsaga := hosted_under "/run" (by decide : '/' ∉ "saga".toList)
    (by decide : '/' ∉ "player".toList)
  have hhosts : ∀ host defaultPort, Hosting.Step.start host defaultPort ∈ restart →
      (getTransportConfig host defaultPort).udsPath = none ∨
        ∃ service name, HostedUnder "/run" service name host := by
    intro host defaultPort hmem
    simp only [restart, List.mem_cons, Hosting.Step.start.injEq, reduceCtorEq,
      List.not_mem_nil, or_false] at hmem
    rcases hmem with ⟨rfl, -⟩ | ⟨rfl, -⟩ | ⟨rfl, -⟩
    · exact Or.inr ⟨_, _, hplayer⟩
    · exact Or.inr ⟨_, _, hsaga⟩
    · exact Or.inr ⟨_, _, hplayer⟩
  obtain ⟨path, hpath, hreach⟩ := clients_reach_last_start hmode hbase (by decide)
    (by decide : '/' ∉ "player".toList) hhosts
  refine ⟨path, hpath, (hreach 2).mpr ⟨restart.take 2, _, _, [.stop 0], rfl, rfl,
    ⟨"ch", "player", hplayer, Or.inl ⟨rfl, rfl⟩⟩, ?_, by simp⟩⟩
  intro later port hmem
  simp at hmem

/-- The socket of a plain name is its own. -/
theorem socket_identifies_iff_sample : SocketIdentifies "/run" "ch" "player" :=
  (socket_identifies_iff (by decide) (by decide) (by decide)).mpr ⟨by decide, by decide⟩

/-- A command handler of the domain `eu-player` and a service `ch-eu` of the domain
`player` take each other's socket. -/
example : socketName "ch" "eu-player" = socketName "ch-eu" "player" := by
  decide

end AngzarrClient
