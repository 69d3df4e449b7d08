/-
The dispatch arms that the kind macros emit: one `if` per marked method, in
declaration order, each returning from the generated function when it matches.
-/
import AngzarrClient.Router.Extract
import AngzarrClient.Router.Handler

namespace AngzarrClient

/-- A string that passed `require_non_empty_str`. -/
structure NonEmptyString where
  value : String
  nonEmpty : value ≠ ""
deriving DecidableEq, Repr

/-- A word as a non-empty string, for fixed inputs; the empty word becomes `_`. -/
def Sample.named (word : String) : NonEmptyString :=
  if hword : word = "" then ⟨"_", by decide⟩ else ⟨word, hword⟩

variable {Msg In Out S : Type}

/-- A marked method that takes a decoded message: `#[handles(T)]` or
`#[handles_fact(T)]`.  `In` holds the method's other arguments. -/
structure TypedArm (Msg In Out : Type) where
  method : String
  messageType : MessageType Msg
  run : Msg → In → CommandResult Out

/-- The body of a matched arm: decode the payload, run the method, wrap its
rejection. -/
def TypedArm.execute (key : String → ArmKey) (input : In) (payload : Any)
    (arm : TypedArm Msg In Out) : HandlerRun Out :=
  match arm.messageType.decode payload.value with
  | .error cause => .fail (.anyDecodeFailed payload.typeUrl cause)
  | .ok message => do
      Traced.emit ⟨arm.method, key payload.typeUrl, payload⟩
      match arm.run message input with
      | .error rejection => .fail (.rejected rejection)
      | .ok out => pure out

/-- The arms in order; `none` when no type URL matches. -/
def runArms (key : String → ArmKey) (input : In) (payload : Any) :
    List (TypedArm Msg In Out) → HandlerRun (Option Out)
  | [] => pure none
  | arm :: rest =>
      if payload.typeUrl = fullTypeUrl arm.messageType then
        some <$> arm.execute key input payload
      else runArms key input payload rest

/-- The type URLs the arms are declared for, as the config lists them. -/
def armUrls (arms : List (TypedArm Msg In Out)) : List String :=
  arms.map fun arm => fullTypeUrl arm.messageType

/-- The first arm for a type URL. -/
def firstArm (typeUrl : String) (arms : List (TypedArm Msg In Out)) :
    Option (TypedArm Msg In Out) :=
  arms.find? fun arm => typeUrl = fullTypeUrl arm.messageType

/-- What a `#[rejected(domain = .., command = ..)]` attribute records. -/
structure RejectedMark where
  method : String
  domain : NonEmptyString
  command : NonEmptyString

/-- The rejection key a mark is filed under. -/
def RejectedMark.key (mark : RejectedMark) : String × String :=
  (mark.domain.value, mark.command.value)

theorem RejectedMark.key_eq_iff {first second : RejectedMark} :
    first.key = second.key ↔ first.domain.value = second.domain.value ∧
      first.command.value = second.command.value := Prod.ext_iff

/-- A `#[rejected]` method of a command handler. -/
structure RejectedArm (S : Type) extends RejectedMark where
  run : Notification → S → CommandResult BusinessResponse

/-- The body of a matched rejection arm. -/
def RejectedArm.execute (notification : Notification) (state : S) (payload : Any)
    (arm : RejectedArm S) : HandlerRun BusinessResponse := do
  Traced.emit ⟨arm.method, .rejected arm.domain.value arm.command.value, payload⟩
  match arm.run notification state with
  | .error rejection => .fail (.rejected rejection)
  | .ok response => pure response

/-- The rejection arms in order; `none` when the key matches none. -/
def runRejectedArms (notification : Notification) (key : String × String)
    (state : S) (payload : Any) :
    List (RejectedArm S) → HandlerRun (Option BusinessResponse)
  | [] => pure none
  | arm :: rest =>
      if key.1 = arm.domain.value ∧ key.2 = arm.command.value then
        some <$> arm.execute notification state payload
      else runRejectedArms notification key state payload rest

section Typed

variable {key : String → ArmKey} {input : In} {payload : Any}

theorem runArms_eq (arms : List (TypedArm Msg In Out)) :
    runArms key input payload arms =
      match firstArm payload.typeUrl arms with
      | none => pure none
      | some arm => some <$> arm.execute key input payload := by
  induction arms with
  | nil => rfl
  | cons arm rest ih =>
      rw [runArms, firstArm]
      by_cases hurl : payload.typeUrl = fullTypeUrl arm.messageType
      · rw [if_pos hurl, List.find?_cons_of_pos (by simpa using hurl)]
      · rw [if_neg hurl, List.find?_cons_of_neg (by simpa using hurl), ih, firstArm]

theorem firstArm_eq_none_iff {typeUrl : String} {arms : List (TypedArm Msg In Out)} :
    firstArm typeUrl arms = none ↔ typeUrl ∉ armUrls arms := by
  rw [firstArm, armUrls, List.find?_eq_none]
  simp only [decide_eq_true_eq, List.mem_map, not_exists, not_and]
  constructor
  · intro hnone arm harm heq
    exact hnone arm harm heq.symm
  · intro hnone arm harm heq
    exact hnone arm harm heq.symm

/-- A type URL of the config has an arm. -/
theorem exists_firstArm {typeUrl : String} {arms : List (TypedArm Msg In Out)}
    (hmem : typeUrl ∈ armUrls arms) :
    ∃ arm ∈ arms, firstArm typeUrl arms = some arm ∧
      typeUrl = fullTypeUrl arm.messageType := by
  cases hfirst : firstArm typeUrl arms with
  | none => exact absurd hmem (firstArm_eq_none_iff.mp hfirst)
  | some arm =>
      rw [firstArm] at hfirst
      refine ⟨arm, List.mem_of_find?_eq_some hfirst, rfl, ?_⟩
      simpa using List.find?_some hfirst

theorem TypedArm.execute_of_decode {arm : TypedArm Msg In Out} {message : Msg}
    (hdecode : arm.messageType.decode payload.value = .ok message) :
    arm.execute key input payload =
      ⟨[⟨arm.method, key payload.typeUrl, payload⟩],
        (arm.run message input).mapError ClientError.rejected⟩ := by
  rw [TypedArm.execute, hdecode]
  change Traced.emit _ >>= _ = _
  rw [Traced.emit_bind]
  cases arm.run message input with
  | error rejection => rfl
  | ok out => rfl

theorem TypedArm.execute_of_undecodable {arm : TypedArm Msg In Out} {cause : String}
    (hdecode : arm.messageType.decode payload.value = .error cause) :
    arm.execute key input payload =
      .fail (.anyDecodeFailed payload.typeUrl cause) := by
  rw [TypedArm.execute, hdecode]

/-- An arm fails because its payload does not decode or its method rejects. -/
theorem TypedArm.execute_error {arm : TypedArm Msg In Out} {error : ClientError}
    (herror : (arm.execute key input payload).outcome = .error error) :
    (∃ cause, error = .anyDecodeFailed payload.typeUrl cause) ∨
      ∃ rejection, error = .rejected rejection := by
  cases hdecode : arm.messageType.decode payload.value with
  | error cause =>
      rw [execute_of_undecodable hdecode] at herror
      cases herror
      exact Or.inl ⟨cause, rfl⟩
  | ok message =>
      rw [execute_of_decode hdecode] at herror
      dsimp only at herror
      cases hrun : arm.run message input with
      | ok out => rw [hrun] at herror; cases herror
      | error rejection =>
          rw [hrun] at herror
          cases herror
          exact Or.inr ⟨rejection, rfl⟩

/-- An arm runs its own method, once, if its payload decodes. -/
theorem TypedArm.trace_execute {arm : TypedArm Msg In Out} :
    (arm.execute key input payload).trace =
      match arm.messageType.decode payload.value with
      | .ok _ => [⟨arm.method, key payload.typeUrl, payload⟩]
      | .error _ => [] := by
  cases hdecode : arm.messageType.decode payload.value with
  | error cause => rw [execute_of_undecodable hdecode]; rfl
  | ok message => rw [execute_of_decode hdecode]

/-- The arms run the method of the first arm for the type URL and no other. -/
theorem mem_trace_runArms {arms : List (TypedArm Msg In Out)} {run : MethodRun}
    (hmem : run ∈ (runArms key input payload arms).trace) :
    ∃ arm, firstArm payload.typeUrl arms = some arm ∧
      run = ⟨arm.method, key payload.typeUrl, payload⟩ := by
  rw [runArms_eq] at hmem
  cases hfirst : firstArm payload.typeUrl arms with
  | none => rw [hfirst] at hmem; cases hmem
  | some arm =>
      rw [hfirst] at hmem
      dsimp only at hmem
      rw [Traced.trace_map, TypedArm.trace_execute] at hmem
      split at hmem
      · exact ⟨arm, rfl, List.mem_singleton.mp hmem⟩
      · cases hmem

/-- Exactly one method ran, once: one declared for the payload's type, on it. -/
def RunsOneMethod (handles : List (TypedArm Msg In Out)) (payload : Any)
    (trace : List MethodRun) : Prop :=
  ∃ arm ∈ handles, payload.typeUrl = fullTypeUrl arm.messageType ∧
    trace = [⟨arm.method, .handles payload.typeUrl, payload⟩]

/-- The payload is for one of the arms, and the first of these cannot decode it. -/
def Undecodable (arms : List (TypedArm Msg In Out)) (payload : Any) (cause : String) : Prop :=
  ∃ arm, firstArm payload.typeUrl arms = some arm ∧
    arm.messageType.decode payload.value = .error cause

/-- No method ran, since the payload did not decode for its arm. -/
def FailsToDecode {α : Type} (arms : List (TypedArm Msg In Out)) (payload : Any)
    (run : HandlerRun α) : Prop :=
  run.trace = [] ∧ ∃ cause, Undecodable arms payload cause ∧
    run.outcome = .error (.anyDecodeFailed payload.typeUrl cause)

theorem runArms_runs_or_fails {arms : List (TypedArm Msg In Out)}
    (hmem : payload.typeUrl ∈ armUrls arms) :
    RunsOneMethod arms payload (runArms .handles input payload arms).trace ∨
      FailsToDecode arms payload (runArms .handles input payload arms) := by
  obtain ⟨arm, harm, hfirst, hurl⟩ := exists_firstArm hmem
  rw [runArms_eq, hfirst]
  dsimp only
  cases hdecode : arm.messageType.decode payload.value with
  | ok message =>
      refine Or.inl ⟨arm, harm, hurl, ?_⟩
      rw [Traced.trace_map, TypedArm.trace_execute, hdecode]
  | error cause =>
      rw [TypedArm.execute_of_undecodable hdecode]
      exact Or.inr ⟨rfl, cause, ⟨arm, hfirst, hdecode⟩, rfl⟩

theorem FailsToDecode.map {α β : Type} {arms : List (TypedArm Msg In Out)}
    {run : HandlerRun α} (f : α → β) (hfails : FailsToDecode arms payload run) :
    FailsToDecode arms payload (f <$> run) := by
  obtain ⟨htrace, cause, hundecodable, houtcome⟩ := hfails
  refine ⟨by rw [Traced.trace_map, htrace], cause, hundecodable, ?_⟩
  rw [Traced.outcome_map, houtcome]
  rfl

end Typed

theorem runRejectedArms_eq (notification : Notification) (key : String × String)
    (state : S) (payload : Any) (arms : List (RejectedArm S)) :
    runRejectedArms notification key state payload arms =
      match arms.find? fun arm => key = arm.key with
      | none => pure none
      | some arm => some <$> arm.execute notification state payload := by
  induction arms with
  | nil => rfl
  | cons arm rest ih =>
      have hkey : (key.1 = arm.domain.value ∧ key.2 = arm.command.value) ↔
          key = arm.key := by
        rw [RejectedMark.key, Prod.ext_iff]
      rw [runRejectedArms]
      by_cases hmatch : key = arm.key
      · rw [if_pos (hkey.mpr hmatch), List.find?_cons_of_pos (by simpa using hmatch)]
      · rw [if_neg (mt hkey.mp hmatch),
          List.find?_cons_of_neg (by simpa using hmatch), ih]

theorem RejectedArm.execute_eq (notification : Notification) (state : S)
    (payload : Any) (arm : RejectedArm S) :
    arm.execute notification state payload =
      ⟨[⟨arm.method, .rejected arm.domain.value arm.command.value, payload⟩],
        (arm.run notification state).mapError ClientError.rejected⟩ := by
  rw [RejectedArm.execute, Traced.emit_bind]
  cases arm.run notification state with
  | error rejection => rfl
  | ok response => rfl

theorem mem_trace_runRejectedArms {notification : Notification}
    {key : String × String} {state : S} {payload : Any} {arms : List (RejectedArm S)}
    {run : MethodRun}
    (hmem : run ∈ (runRejectedArms notification key state payload arms).trace) :
    ∃ arm, (arms.find? fun arm => key = arm.key) = some arm ∧
      run = ⟨arm.method, .rejected arm.domain.value arm.command.value, payload⟩ := by
  rw [runRejectedArms_eq] at hmem
  cases hfirst : arms.find? fun arm => key = arm.key with
  | none => rw [hfirst] at hmem; cases hmem
  | some arm =>
      rw [hfirst] at hmem
      dsimp only at hmem
      rw [Traced.trace_map, RejectedArm.execute_eq] at hmem
      exact ⟨arm, rfl, List.mem_singleton.mp hmem⟩

end AngzarrClient
