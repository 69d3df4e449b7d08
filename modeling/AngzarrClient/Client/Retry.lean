/-
The two retry loops: `ExponentialBackoffRetry::execute` (`retry.rs`) sleeps after
a failed attempt unless it is the last one, `create_channel` (`client.rs`) before
every attempt but the first.  On the same outcomes they do the same.
-/
import AngzarrClient.Client.Backoff
import AngzarrClient.Client.Dial
import AngzarrClient.Lib.Traced

namespace AngzarrClient

/-- What a retry loop does: attempt the operation, call the `on_retry` hook,
sleep. -/
inductive RetryEvent
  | attempted
  | retried (attempt : Nat) (error : String)
  | slept (delay : Duration)
deriving DecidableEq, Repr

/-- How `execute` ends without a value: with the last error, or with the panic of
`expect` when no attempt was permitted. -/
inductive Ended (E : Type)
  | failed (error : E)
  | panicked
deriving DecidableEq, Repr

namespace ExponentialBackoffRetry

section Execute

variable {E T : Type} (policy : ExponentialBackoffRetry) (draws : Nat → Draw)
  (display : E → String) (op : Nat → Except E T)

/-- The hook is called if one is installed. -/
def callOnRetry {ε : Type} (attempt : Nat) (error : String) : Traced RetryEvent ε PUnit :=
  if policy.hasOnRetry then Traced.emit (.retried attempt error) else pure ⟨⟩

/-- The loop of `execute` over the attempts that are left.  `op n` is what the
call of `op` after `n` others yields, `draws n` the draw after `n` others. -/
def executeLoop : List Nat → Nat → Nat → Option E → Traced RetryEvent (Ended E) T
  | [], _, _, some e => .fail (.failed e)
  | [], _, _, none => .fail .panicked
  | attempt :: rest, calls, drawn, _ => do
      Traced.emit .attempted
      match op calls with
      | .ok value => pure value
      | .error e =>
          if attempt + 1 ≥ policy.maxAttempts.toNat then
            executeLoop rest (calls + 1) drawn (some e)
          else do
            policy.callOnRetry attempt (display e)
            Traced.emit (.slept (policy.computeDelay (draws drawn) attempt))
            executeLoop rest (calls + 1) (drawn + 1) (some e)

/-- `ExponentialBackoffRetry::execute`. -/
def execute : Traced RetryEvent (Ended E) T :=
  executeLoop policy draws display op (List.range policy.maxAttempts.toNat) 0 0 none

end Execute

end ExponentialBackoffRetry

/-- What `create_channel` takes from tonic: whether a URI parses, and what the
connection attempt after `n` others yields.  Errors are kept as their text. -/
structure Tonic (Channel : Type) where
  parseUri : String → Except String PUnit
  connect : Endpoint → Nat → Except String Channel

namespace ClientError

def endpointParseFailed (cause : String) : ClientError :=
  .connection ⟨codes.endpointParseFailed, messages.endpointParseFailed,
    [(keys.cause, cause)]⟩

def endpointInvalidUri (endpoint cause : String) : ClientError :=
  .connection ⟨codes.endpointInvalidUri, messages.endpointInvalidUri,
    [(keys.endpoint, endpoint), (keys.cause, cause)]⟩

def connectionFailed (endpoint cause : String) : ClientError :=
  .connection ⟨codes.connectionFailed, messages.connectionFailed,
    [(keys.endpoint, endpoint), (keys.cause, cause)]⟩

def connectionFailedMaxRetries (endpoint : String) : ClientError :=
  .connection ⟨codes.connectionFailedMaxRetries, messages.connectionFailedMaxRetries,
    [(keys.endpoint, endpoint)]⟩

end ClientError

section CreateChannel

variable {Channel : Type} (tonic : Tonic Channel) (draws : Nat → Draw)
  (endpoint : String) (policy : ExponentialBackoffRetry)

/-- The parse in front of every attempt; its failure is not retried.  For a Unix
socket the URI is a dummy. -/
def parseEndpoint : Except ClientError PUnit :=
  match channelEndpoint endpoint with
  | .uds _ => (tonic.parseUri "http://[::]:50051").mapError .endpointParseFailed
  | .tcp address => (tonic.parseUri address).mapError (.endpointInvalidUri endpoint)

/-- The sleep in front of an attempt, unless it is the first; returns the number of
draws made by then. -/
def backoff (drawn attempt : Nat) : Traced RetryEvent ClientError Nat :=
  if attempt > 0 then do
    Traced.emit (.slept (policy.computeDelay (draws drawn) (attempt - 1)))
    pure (drawn + 1)
  else pure drawn

/-- The loop of `create_channel` over the attempts that are left. -/
def createChannelLoop :
    List Nat → Nat → Nat → Option ClientError → Traced RetryEvent ClientError Channel
  | [], _, _, lastError =>
      .fail (lastError.getD (.connectionFailedMaxRetries endpoint))
  | attempt :: rest, calls, drawn, _ => do
      let drawn ← backoff draws policy drawn attempt
      Traced.ofExcept (parseEndpoint tonic endpoint)
      Traced.emit .attempted
      match tonic.connect (channelEndpoint endpoint) calls with
      | .ok channel => pure channel
      | .error e =>
          createChannelLoop rest (calls + 1) drawn (some (.connectionFailed endpoint e))

/-- `create_channel`. -/
def createChannel : Traced RetryEvent ClientError Channel :=
  createChannelLoop tonic draws endpoint policy (List.range policy.maxAttempts.toNat) 0 0 none

end CreateChannel

section OnePolicy

variable {E T : Type} {policy : ExponentialBackoffRetry} {draws : Nat → Draw}
  {display : E → String} {outcomes : Nat → Except E T}

/-- The text of a failed attempt's error. -/
def failureText (display : E → String) (outcomes : Nat → Except E T) (attempt : Nat) :
    String :=
  match outcomes attempt with
  | .ok _ => ""
  | .error e => display e

/-- The sleep after an attempt. -/
def sleepAfter (policy : ExponentialBackoffRetry) (draws : Nat → Draw) (attempt : Nat) :
    List RetryEvent :=
  [.slept (policy.computeDelay (draws attempt) attempt)]

/-- The hook, if one is installed, and the sleep after an attempt. -/
def retryAfter (policy : ExponentialBackoffRetry) (draws : Nat → Draw)
    (display : E → String) (outcomes : Nat → Except E T) (attempt : Nat) :
    List RetryEvent :=
  (if policy.hasOnRetry then [.retried attempt (failureText display outcomes attempt)]
    else []) ++ sleepAfter policy draws attempt

section ExecuteLoop

variable {attempt calls drawn : Nat} {rest : List Nat} {lastErr : Option E}

theorem executeLoop_of_ok {value : T} (hcall : outcomes calls = .ok value) :
    policy.executeLoop draws display outcomes (attempt :: rest) calls drawn lastErr =
      ⟨[.attempted], .ok value⟩ := by
  rw [ExponentialBackoffRetry.executeLoop, hcall]
  rfl

theorem executeLoop_of_last {e : E} (hcall : outcomes calls = .error e)
    (hlast : attempt + 1 = policy.maxAttempts.toNat) :
    policy.executeLoop draws display outcomes [attempt] calls drawn lastErr =
      ⟨[.attempted], .error (.failed e)⟩ := by
  rw [ExponentialBackoffRetry.executeLoop, hcall]
  dsimp only
  rw [if_pos (Nat.le_of_eq hlast.symm)]
  rfl

theorem executeLoop_of_error {e : E} (hcall : outcomes calls = .error e)
    (hmore : attempt + 1 < policy.maxAttempts.toNat) :
    policy.executeLoop draws display outcomes (attempt :: rest) calls drawn lastErr =
      ⟨.attempted :: ((if policy.hasOnRetry then [.retried attempt (display e)] else []) ++
          .slept (policy.computeDelay (draws drawn) attempt) ::
            (policy.executeLoop draws display outcomes rest (calls + 1) (drawn + 1)
              (some e)).trace),
        (policy.executeLoop draws display outcomes rest (calls + 1) (drawn + 1)
          (some e)).outcome⟩ := by
  rw [ExponentialBackoffRetry.executeLoop, hcall]
  dsimp only
  rw [if_neg (Nat.not_le_of_lt hmore), ExponentialBackoffRetry.callOnRetry]
  split
  · rfl
  · rfl

end ExecuteLoop

/-- The loop of `execute`, from any attempt on. -/
theorem executeLoop_eq {start left : Nat} {lastErr : Option E}
    (hpermitted : start + (left + 1) = policy.maxAttempts.toNat) :
    policy.executeLoop draws display outcomes (List.range' start (left + 1)) start start
        lastErr =
      ⟨Retry.rounds (fun _ => [.attempted]) (retryAfter policy draws display outcomes) start
          (Retry.attempts outcomes start (left + 1)),
        (outcomes (start + (Retry.attempts outcomes start (left + 1) - 1))).mapError
          .failed⟩ := by
  induction left generalizing start lastErr with
  | zero =>
      cases hstart : outcomes start with
      | ok value =>
          rw [List.range'_succ, executeLoop_of_ok hstart, Retry.attempts_of_ok hstart,
            Nat.sub_self, Nat.add_zero start, hstart]
          rfl
      | error e =>
          rw [List.range'_succ, List.range'_zero, executeLoop_of_last hstart hpermitted,
            Retry.attempts_of_error hstart, Retry.attempts, Nat.zero_add, Nat.sub_self,
            Nat.add_zero start, hstart]
          rfl
  | succ left ih =>
      cases hstart : outcomes start with
      | ok value =>
          rw [List.range'_succ, executeLoop_of_ok hstart, Retry.attempts_of_ok hstart,
            Nat.sub_self, Nat.add_zero start, hstart]
          rfl
      | error e =>
          have hpos : 0 < Retry.attempts outcomes (start + 1) (left + 1) :=
            Retry.attempts_pos
          have hindex : start + 1 + (Retry.attempts outcomes (start + 1) (left + 1) - 1) =
              start + Retry.attempts outcomes (start + 1) (left + 1) := by omega
          have htext : failureText display outcomes start = display e := by
            rw [failureText, hstart]
          rw [List.range'_succ, executeLoop_of_error hstart (by omega), ih (by omega),
            Retry.attempts_of_error hstart, Retry.rounds_succ hpos, hindex,
            Nat.add_sub_cancel, retryAfter, htext]
          simp [sleepAfter]

section CreateChannelLoop

variable {tonic : Tonic T} {endpoint : String} {rest : List Nat}
  {lastError : Option ClientError}

/-- The draws made before an attempt are as many as the sleeps. -/
theorem backoff_eq (start : Nat) :
    backoff draws policy (start - 1) start =
      ⟨if start > 0 then sleepAfter policy draws (start - 1) else [], .ok start⟩ := by
  rw [backoff]
  split
  · rename_i hpos
    rw [Traced.emit_bind, Traced.outcome_pure, Nat.sub_add_cancel hpos]
    rfl
  · rename_i hzero
    obtain rfl : start = 0 := by omega
    rfl

/-- No attempt fails in a way that is not retried. -/
structure Retryable (tonic : Tonic T) (endpoint : String) (display : E → String)
    (outcomes : Nat → Except E T) : Prop where
  parses : parseEndpoint tonic endpoint = .ok ⟨⟩
  connects (k : Nat) :
    tonic.connect (channelEndpoint endpoint) k = (outcomes k).mapError display

theorem createChannelLoop_of_ok (hretryable : Retryable tonic endpoint display outcomes)
    {start : Nat} {value : T} (hstart : outcomes start = .ok value) :
    createChannelLoop tonic draws endpoint policy (start :: rest) start (start - 1)
        lastError =
      ⟨(if start > 0 then sleepAfter policy draws (start - 1) else []) ++ [.attempted],
        .ok value⟩ := by
  rw [createChannelLoop, backoff_eq, Traced.bind_of_ok rfl, hretryable.parses,
    hretryable.connects, hstart]
  rfl

theorem createChannelLoop_of_error (hretryable : Retryable tonic endpoint display outcomes)
    {start : Nat} {e : E} (hstart : outcomes start = .error e) :
    createChannelLoop tonic draws endpoint policy (start :: rest) start (start - 1)
        lastError =
      ⟨(if start > 0 then sleepAfter policy draws (start - 1) else []) ++ .attempted ::
          (createChannelLoop tonic draws endpoint policy rest (start + 1) start
            (some (.connectionFailed endpoint (display e)))).trace,
        (createChannelLoop tonic draws endpoint policy rest (start + 1) start
          (some (.connectionFailed endpoint (display e)))).outcome⟩ := by
  rw [createChannelLoop, backoff_eq, Traced.bind_of_ok rfl, hretryable.parses,
    hretryable.connects, hstart]
  rfl

/-- The loop of `create_channel`, from any attempt on. -/
theorem createChannelLoop_eq (hretryable : Retryable tonic endpoint display outcomes)
    {start left : Nat} :
    createChannelLoop tonic draws endpoint policy (List.range' start (left + 1)) start
        (start - 1) lastError =
      ⟨(if start > 0 then sleepAfter policy draws (start - 1) else []) ++
          Retry.rounds (fun _ => [.attempted]) (sleepAfter policy draws) start
            (Retry.attempts outcomes start (left + 1)),
        (outcomes (start + (Retry.attempts outcomes start (left + 1) - 1))).mapError
          fun e => .connectionFailed endpoint (display e)⟩ := by
  induction left generalizing start lastError with
  | zero =>
      cases hstart : outcomes start with
      | ok value =>
          rw [List.range'_succ, createChannelLoop_of_ok hretryable hstart,
            Retry.attempts_of_ok hstart, Nat.sub_self, Nat.add_zero start, hstart]
          rfl
      | error e =>
          rw [List.range'_succ, List.range'_zero,
            createChannelLoop_of_error hretryable hstart, Retry.attempts_of_error hstart,
            Retry.attempts, Nat.zero_add, Nat.sub_self, Nat.add_zero start, hstart]
          rfl
  | succ left ih =>
      cases hstart : outcomes start with
      | ok value =>
          rw [List.range'_succ, createChannelLoop_of_ok hretryable hstart,
            Retry.attempts_of_ok hstart, Nat.sub_self, Nat.add_zero start, hstart]
          rfl
      | error e =>
          have hpos : 0 < Retry.attempts outcomes (start + 1) (left + 1) :=
            Retry.attempts_pos
          have hindex : start + 1 + (Retry.attempts outcomes (start + 1) (left + 1) - 1) =
              start + Retry.attempts outcomes (start + 1) (left + 1) := by omega
          have hnext := @ih (some (.connectionFailed endpoint (display e))) (start + 1)
          rw [Nat.add_sub_cancel] at hnext
          rw [List.range'_succ, createChannelLoop_of_error hretryable hstart, hnext,
            Retry.attempts_of_error hstart, Retry.rounds_succ hpos, hindex,
            Nat.add_sub_cancel]
          simp

end CreateChannelLoop

theorem execute_eq (hpermitted : 0 < policy.maxAttempts.toNat) :
    policy.execute draws display outcomes =
      ⟨Retry.rounds (fun _ => [.attempted]) (retryAfter policy draws display outcomes) 0
          (Retry.attempts outcomes 0 policy.maxAttempts.toNat),
        (outcomes (Retry.attempts outcomes 0 policy.maxAttempts.toNat - 1)).mapError
          .failed⟩ := by
  obtain ⟨left, hleft⟩ := Nat.exists_eq_succ_of_ne_zero hpermitted.ne'
  have hloop := @executeLoop_eq E T policy draws display outcomes 0 left none (by omega)
  rw [Nat.zero_add, ← Nat.succ_eq_add_one, ← hleft, ← List.range_eq_range'] at hloop
  exact hloop

theorem createChannel_eq {tonic : Tonic T} {endpoint : String}
    (hpermitted : 0 < policy.maxAttempts.toNat)
    (hretryable : Retryable tonic endpoint display outcomes) :
    createChannel tonic draws endpoint policy =
      ⟨Retry.rounds (fun _ => [.attempted]) (sleepAfter policy draws) 0
          (Retry.attempts outcomes 0 policy.maxAttempts.toNat),
        (outcomes (Retry.attempts outcomes 0 policy.maxAttempts.toNat - 1)).mapError
          fun e => .connectionFailed endpoint (display e)⟩ := by
  obtain ⟨left, hleft⟩ := Nat.exists_eq_succ_of_ne_zero hpermitted.ne'
  have hloop := @createChannelLoop_eq E T policy draws display outcomes tonic endpoint none
    hretryable 0 left
  rw [Nat.zero_add, ← Nat.succ_eq_add_one, ← hleft, ← List.range_eq_range'] at hloop
  exact hloop

/-- The delay a retry loop sleeps, if the event is a sleep. -/
def RetryEvent.delay? : RetryEvent → Option Duration
  | .slept delay => some delay
  | _ => none

/-- The arguments the hook is called with, if the event is its call. -/
def RetryEvent.hook? : RetryEvent → Option (Nat × String)
  | .retried attempt error => some (attempt, error)
  | _ => none

/-- Two runs of retry loops that make `made` attempts under one policy. -/
structure OnePolicy (policy : ExponentialBackoffRetry) (draws : Nat → Draw)
    (display : E → String) (outcomes : Nat → Except E T) (endpoint : String)
    (execution : Traced RetryEvent (Ended E) T)
    (connection : Traced RetryEvent ClientError T) (made : Nat) : Prop where
  permitted : 0 < made ∧ made ≤ policy.maxAttempts.toNat
  /-- The attempts go on past every failure, to the first success or the end. -/
  failed (k : Nat) : k + 1 < made → ∃ e, outcomes k = .error e
  last : (∃ value, outcomes (made - 1) = .ok value) ∨ made = policy.maxAttempts.toNat
  /-- Each run is its attempts, in turn, with the sleeps between them. -/
  executeTrace : execution.trace = Retry.rounds (fun _ => [.attempted])
    (retryAfter policy draws display outcomes) 0 made
  channelTrace : connection.trace = Retry.rounds (fun _ => [.attempted])
    (sleepAfter policy draws) 0 made
  sleeps : execution.trace.filterMap RetryEvent.delay? =
      (List.range (made - 1)).map (fun k => policy.computeDelay (draws k) k) ∧
    connection.trace.filterMap RetryEvent.delay? =
      execution.trace.filterMap RetryEvent.delay?
  /-- The hook sees every attempt that is retried, once and in order. -/
  hooks : execution.trace.filterMap RetryEvent.hook? =
    if policy.hasOnRetry then
      (List.range (made - 1)).map fun k => (k, failureText display outcomes k)
    else []
  executeOutcome : execution.outcome = (outcomes (made - 1)).mapError .failed
  channelOutcome : connection.outcome = (outcomes (made - 1)).mapError fun e =>
    .connectionFailed endpoint (display e)

theorem delays_retryAfter (k : Nat) :
    (retryAfter policy draws display outcomes k).filterMap RetryEvent.delay? =
      [policy.computeDelay (draws k) k] := by
  rw [retryAfter]
  split
  · rfl
  · rfl

theorem hooks_retryAfter (k : Nat) :
    (retryAfter policy draws display outcomes k).filterMap RetryEvent.hook? =
      if policy.hasOnRetry then [(k, failureText display outcomes k)] else [] := by
  rw [retryAfter]
  split
  · rfl
  · rfl

end OnePolicy

/-- Under a policy that permits an attempt and on outcomes that are successes or
failures to retry, `execute` and `create_channel` do the same. -/
theorem retry_loops_are_one_policy {E T : Type} {policy : ExponentialBackoffRetry}
    (hpermitted : 1 ≤ policy.maxAttempts) (draws : Nat → Draw) {display : E → String}
    {outcomes : Nat → Except E T} {tonic : Tonic T} {endpoint : String}
    (hretryable : Retryable tonic endpoint display outcomes) :
    OnePolicy policy draws display outcomes endpoint
      (policy.execute draws display outcomes) (createChannel tonic draws endpoint policy)
      (Retry.attempts outcomes 0 policy.maxAttempts.toNat) := by
  rw [UInt32.le_iff_toNat_le, UInt32.toNat_one] at hpermitted
  have hexecute := @execute_eq E T policy draws display outcomes hpermitted
  have hchannel := @createChannel_eq E T policy draws display outcomes tonic endpoint
    hpermitted hretryable
  obtain ⟨left, hleft⟩ := Nat.exists_eq_succ_of_ne_zero (Nat.ne_of_gt hpermitted)
  constructor
  case permitted =>
    rw [hleft]
    exact ⟨Retry.attempts_pos, Retry.attempts_le⟩
  case failed =>
    intro k hk
    have hfailed := Retry.failed_of_lt_attempts hk
    rwa [Nat.zero_add] at hfailed
  case last =>
    have hlast := @Retry.last_of_attempts E T outcomes 0 left
    rwa [Nat.zero_add, ← Nat.succ_eq_add_one, ← hleft] at hlast
  case executeTrace => rw [hexecute]
  case channelTrace => rw [hchannel]
  case sleeps =>
    rw [hexecute, hchannel]
    dsimp only
    rw [Retry.filterMap_rounds_pauses (by intro _; rfl),
      Retry.filterMap_rounds_pauses (by intro _; rfl)]
    simp only [delays_retryAfter]
    rw [List.range_eq_range', List.map_eq_flatMap]
    exact ⟨rfl, rfl⟩
  case hooks =>
    rw [hexecute]
    dsimp only
    rw [Retry.filterMap_rounds_pauses (by intro _; rfl)]
    simp only [hooks_retryAfter]
    split
    · rw [List.range_eq_range', List.map_eq_flatMap]
    · simp
  case executeOutcome => rw [hexecute]
  case channelOutcome => rw [hchannel]

namespace Sample

/-- Two failures, then a success. -/
def thirdTime (attempt : Nat) : Except String Nat :=
  if attempt < 2 then .error "refused" else .ok attempt

/-- Every URI parses; the connection comes up at the third attempt. -/
def flakyTonic : Tonic Nat where
  parseUri _ := .ok ⟨⟩
  connect _ := thirdTime

end Sample

open Sample in
/-- Three attempts and two sleeps, in both loops. -/
theorem retry_loops_are_one_policy_sample :
    OnePolicy policy (fun _ => id) id thirdTime "localhost:1310"
      (policy.execute (fun _ => id) id thirdTime)
      (createChannel flakyTonic (fun _ => id) "localhost:1310" policy) 3 := by
  have hretryable : Retryable flakyTonic "localhost:1310" id thirdTime := by
    refine ⟨by rfl, fun k => ?_⟩
    change thirdTime k = _
    cases thirdTime k with
    | ok value => rfl
    | error e => rfl
  exact retry_loops_are_one_policy (by decide) _ hretryable

end AngzarrClient
