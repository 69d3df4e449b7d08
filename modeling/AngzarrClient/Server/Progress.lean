/-
Readiness follows the probes, and a shutdown comes to its end.  While the probes answer
alike, each step of the supervisor brings the statuses nearer to what they answer, whatever
`run_kind` does in the meantime; and `run_kind` is never stuck.
-/
import AngzarrClient.Server.Supervision

namespace AngzarrClient

namespace Readiness

variable {config : ReadinessConfig} {answer : Probe → CheckOutcome} {s s' : State}

/-- The supervisor task runs. -/
def State.Running (s : State) : Prop := s.supervisor ≠ .unspawned ∧ s.supervisor ≠ .stopped

/-- An interleaving in which every check ends as its probe answers, with the number of
steps that the supervisor takes.  The task is not cancelled. -/
inductive Steady (config : ReadinessConfig) (answer : Probe → CheckOutcome) (s : State) :
    Nat → State → Prop
  | start : Steady config answer s 0 s
  | supervisor {steps : Nat} {mid next : State} {outcome : CheckOutcome}
      (hrun : Steady config answer s steps mid)
      (hanswer : ∀ probe rest allOk, mid.supervisor = .ticking (probe :: rest) allOk →
        outcome = answer probe)
      (hstep : step config mid (.supervisor outcome) = some next) :
      Steady config answer s (steps + 1) next
  | other {steps : Nat} {mid next : State} {action : Action}
      (hrun : Steady config answer s steps mid)
      (haction : action = .runner ∨ action = .drop)
      (hstep : step config mid action = some next) : Steady config answer s steps next

/-- Every probe of the list answers that it is healthy. -/
def healthy (answer : Probe → CheckOutcome) (probes : List Probe) : Bool :=
  probes.all fun probe => (answer probe).ok

/-- The status the answers amount to. -/
def dueStatus (config : ReadinessConfig) (answer : Probe → CheckOutcome) : ServingStatus :=
  statusOf (healthy answer config.probes)

/-- The steps from the start of a tick until all names are written. -/
def roundSteps (config : ReadinessConfig) : Nat :=
  config.probes.length + config.serviceNames.length + 1

/-- The steps the supervisor takes at the most until the names are written with the status
that is due.  A tick that has been spoilt by an earlier answer is ended first. -/
def stepsLeft (config : ReadinessConfig) (answer : Probe → CheckOutcome) :
    Supervisor → Nat
  | .ticking rest allOk =>
      rest.length + config.serviceNames.length + 1 +
        if statusOf (allOk && healthy answer rest) = dueStatus config answer then 0
        else roundSteps config + 2
  | .publishing status names =>
      names.length + if status = dueStatus config answer then 0 else roundSteps config + 2
  | .sleeping => roundSteps config + 1
  | _ => 0

/-- The tick under way leads to the status that is due. -/
def Heads (config : ReadinessConfig) (answer : Probe → CheckOutcome) : Supervisor → Prop
  | .ticking rest allOk =>
      statusOf (allOk && healthy answer rest) = dueStatus config answer
  | .publishing status _ => status = dueStatus config answer
  | _ => True

/-- The names are written with the status that is due, and will be again. -/
structure Settled (config : ReadinessConfig) (answer : Probe → CheckOutcome)
    (place : Supervisor × StatusTable) : Prop where
  table : ∀ name ∈ config.serviceNames, place.2 name = some (dueStatus config answer)
  heads : Heads config answer place.1

/-- What a step of the supervisor does to its place and to the statuses. -/
inductive AnsweredMove (config : ReadinessConfig) (answer : Probe → CheckOutcome) :
    Supervisor × StatusTable → Supervisor × StatusTable → Prop
  | check {probe : Probe} {rest : List Probe} {allOk : Bool} {table : StatusTable} :
      AnsweredMove config answer (.ticking (probe :: rest) allOk, table)
        (.ticking rest (allOk && (answer probe).ok), table)
  | aggregate {allOk : Bool} {table : StatusTable} :
      AnsweredMove config answer (.ticking [] allOk, table)
        (.publishing (statusOf allOk) config.serviceNames, table)
  | write {status : ServingStatus} {name : String} {rest : List String}
      {table : StatusTable} :
      AnsweredMove config answer (.publishing status (name :: rest), table)
        (.publishing status rest, setServiceStatus table name status)
  | sleep {status : ServingStatus} {table : StatusTable} :
      AnsweredMove config answer (.publishing status [], table) (.sleeping, table)
  | wake {table : StatusTable} :
      AnsweredMove config answer (.sleeping, table) (.ticking config.probes true, table)

theorem answeredMove_of_runSupervisor {outcome : CheckOutcome}
    (hanswer : ∀ probe rest allOk, s.supervisor = .ticking (probe :: rest) allOk →
      outcome = answer probe)
    (hstep : runSupervisor config outcome s = some s') :
    AnsweredMove config answer (s.supervisor, s.table) (s'.supervisor, s'.table) := by
  rw [runSupervisor] at hstep
  cases hsupervisor : s.supervisor with
  | unspawned => rw [hsupervisor] at hstep; cases hstep
  | ticking probes allOk =>
      rw [hsupervisor] at hstep
      cases probes with
      | nil => cases hstep; exact .aggregate
      | cons probe rest =>
          dsimp only at hstep
          split_ifs at hstep
          cases hstep
          rw [hanswer probe rest allOk hsupervisor]
          exact .check
  | publishing status names =>
      rw [hsupervisor] at hstep
      cases names with
      | nil => cases hstep; exact .sleep
      | cons name rest => cases hstep; exact .write
  | sleeping => rw [hsupervisor] at hstep; cases hstep; exact .wake
  | stopped => rw [hsupervisor] at hstep; cases hstep

section Moves

/-- Who has no name left to write with the status that is due has written all. -/
theorem settled_of_published (hinv : Inv config s)
    (hsupervisor : s.supervisor = .publishing (dueStatus config answer) []) :
    Settled config answer (s.supervisor, s.table) := by
  have hwrote := hinv.supervisorWrote
  rw [hsupervisor] at hwrote ⊢
  obtain ⟨-, -, -, hwritten⟩ := hwrote
  exact ⟨hwritten.all, rfl⟩

theorem healthy_cons (probe : Probe) (rest : List Probe) (allOk : Bool) :
    (allOk && healthy answer (probe :: rest)) =
      (allOk && (answer probe).ok && healthy answer rest) := by
  rw [healthy, List.all_cons, Bool.and_assoc]
  rfl

variable {place next : Supervisor × StatusTable}

/-- A settled place stays settled. -/
theorem Settled.move (hsettled : Settled config answer place)
    (hmove : AnsweredMove config answer place next) : Settled config answer next := by
  obtain ⟨htable, hheads⟩ := hsettled
  cases hmove with
  | check =>
      refine ⟨htable, ?_⟩
      rw [Heads, healthy_cons] at hheads
      exact hheads
  | aggregate =>
      refine ⟨htable, ?_⟩
      rw [Heads, healthy, List.all_nil, Bool.and_true] at hheads
      exact hheads
  | @write status name rest table =>
      have hstatus : status = dueStatus config answer := hheads
      refine ⟨fun other hother => ?_, hheads⟩
      change setServiceStatus table name status other = _
      by_cases hname : other = name
      · rw [hname, setServiceStatus_self, hstatus]
      · rw [setServiceStatus_of_ne hname]
        exact htable other hother
  | sleep => exact ⟨htable, trivial⟩
  | wake => exact ⟨htable, by rw [Heads, Bool.true_and]; rfl⟩

/-- Each step brings a place that is not settled nearer to it. -/
theorem stepsLeft_move (hmove : AnsweredMove config answer place next)
    (hunsettled : place.1 ≠ .publishing (dueStatus config answer) []) :
    stepsLeft config answer next.1 + 1 ≤ stepsLeft config answer place.1 := by
  cases hmove with
  | check =>
      rw [stepsLeft, stepsLeft, healthy_cons, List.length_cons]
      omega
  | @aggregate allOk =>
      rw [stepsLeft, stepsLeft, healthy, List.all_nil, Bool.and_true, List.length_nil]
      omega
  | write =>
      rw [stepsLeft, stepsLeft, List.length_cons]
      omega
  | @sleep status =>
      have hstatus : status ≠ dueStatus config answer := by
        rintro rfl
        exact hunsettled rfl
      rw [stepsLeft, stepsLeft, if_neg hstatus]
      omega
  | wake =>
      have hdue : statusOf (healthy answer config.probes) = dueStatus config answer := rfl
      have hround : stepsLeft config answer (.ticking config.probes true) =
          roundSteps config := by
        rw [stepsLeft, Bool.true_and, if_pos hdue, Nat.add_zero, roundSteps]
      exact Nat.le_of_eq (congrArg (· + 1) hround)

end Moves

section Runs

/-- While the supervisor runs, `run_kind` writes no status. -/
theorem RunnerMove.place_eq (hinv : Inv config s) (hrunning : s.Running)
    (hmove : RunnerMove config s s') :
    s'.supervisor = s.supervisor ∧ s'.table = s.table := by
  have hrunner := hinv.runner
  refine ⟨(hmove.supervisor_eq hinv hrunning.1).1, ?_⟩
  cases hmove with
  | register hphase =>
      rw [hphase] at hrunner
      exact absurd hrunner.1 hrunning.1
  | publish hphase =>
      rw [hphase] at hrunner
      exact absurd hrunner hrunning.2
  | spawn _ | markBound _ | served _ | abort _ | join _ _ | finish _ => rfl

/-- From anywhere a tick under way is ended and another one made. -/
theorem stepsLeft_le (hinv : Inv config s) :
    stepsLeft config answer s.supervisor ≤ 2 * roundSteps config + 2 := by
  have hcurrent := hinv.current
  have hwrote := hinv.supervisorWrote
  cases hsupervisor : s.supervisor with
  | ticking rest allOk =>
      rw [hsupervisor] at hcurrent
      have hlength := congrArg List.length hcurrent.1
      rw [List.length_append] at hlength
      rw [stepsLeft, roundSteps]
      split_ifs <;> omega
  | publishing status names =>
      rw [hsupervisor] at hwrote
      obtain ⟨-, -, -, done, hnames, -⟩ := hwrote
      have hlength := congrArg List.length hnames
      rw [List.length_append] at hlength
      rw [stepsLeft, roundSteps]
      split_ifs <;> omega
  | sleeping =>
      rw [stepsLeft]
      omega
  | unspawned | stopped => exact Nat.zero_le _

/-- Who runs and has no step left has just written the last name. -/
theorem eq_published_of_stepsLeft (hrunning : s.Running)
    (hnone : stepsLeft config answer s.supervisor = 0) :
    s.supervisor = .publishing (dueStatus config answer) [] := by
  cases hsupervisor : s.supervisor with
  | unspawned => exact absurd hsupervisor hrunning.1
  | stopped => exact absurd hsupervisor hrunning.2
  | sleeping =>
      rw [hsupervisor, stepsLeft] at hnone
      cases hnone
  | ticking rest allOk =>
      rw [hsupervisor, stepsLeft] at hnone
      omega
  | publishing status names =>
      rw [hsupervisor, stepsLeft] at hnone
      split_ifs at hnone with hstatus
      rw [hstatus, List.length_eq_zero_iff.mp hnone]

/-- What holds along a steady run: it is settled, or nearer to it by its steps. -/
theorem Steady.near {steps : Nat} (hinv : Inv config s) (hrunning : s.Running)
    (hrun : Steady config answer s steps s') :
    Inv config s' ∧ s'.Running ∧
      (Settled config answer (s'.supervisor, s'.table) ∨
        stepsLeft config answer s'.supervisor + steps ≤
          stepsLeft config answer s.supervisor) := by
  induction hrun with
  | start => exact ⟨hinv, hrunning, Or.inr (Nat.le_refl _)⟩
  | @supervisor steps mid next outcome _ hanswer hstep ih =>
      obtain ⟨hmidInv, -, hnear⟩ := ih
      have hmove := answeredMove_of_runSupervisor hanswer hstep
      refine ⟨inv_step _ hstep hmidInv,
        (supervisorMove_of_runSupervisor hstep).running.2, ?_⟩
      rcases hnear with hsettled | hleft
      · exact Or.inl (hsettled.move hmove)
      · by_cases hpublished : mid.supervisor = .publishing (dueStatus config answer) []
        · exact Or.inl ((settled_of_published hmidInv hpublished).move hmove)
        · have hless := stepsLeft_move hmove hpublished
          dsimp only at hless
          exact Or.inr (by omega)
  | @other steps mid next action _ haction hstep ih =>
      obtain ⟨hmidInv, hmidRunning, hnear⟩ := ih
      have hplace : next.supervisor = mid.supervisor ∧ next.table = mid.table := by
        rcases haction with rfl | rfl
        · exact (runnerMove_of_runKind hstep).place_eq hmidInv hmidRunning
        · obtain ⟨-, rfl⟩ := eq_of_dropRunner hstep
          exact ⟨rfl, rfl⟩
      refine ⟨inv_step _ hstep hmidInv, ?_, ?_⟩
      · rw [State.Running, hplace.1]
        exact hmidRunning
      · rw [hplace.1, hplace.2]
        exact hnear

/-- A long enough steady run is settled. -/
theorem Steady.settled {steps : Nat} (hinv : Inv config s) (hrunning : s.Running)
    (hrun : Steady config answer s steps s') (hsteps : 2 * roundSteps config + 2 ≤ steps) :
    Settled config answer (s'.supervisor, s'.table) := by
  obtain ⟨hinv', hrunning', hnear⟩ := hrun.near hinv hrunning
  rcases hnear with hsettled | hleft
  · exact hsettled
  · have hbound : stepsLeft config answer s.supervisor ≤ 2 * roundSteps config + 2 :=
      stepsLeft_le hinv
    have hnone : stepsLeft config answer s'.supervisor = 0 := by omega
    exact settled_of_published hinv' (eq_published_of_stepsLeft hrunning' hnone)

end Runs

section Extension

/-- The flag of the listener stays up. -/
theorem SupervisorMove.bound_eq (hmove : SupervisorMove config s s') :
    s'.bound = s.bound := by
  cases hmove with
  | check _ _ | aggregate _ | write _ | sleep _ | wake _ => rfl

/-- The pending check can end as its probe answers; without one the outcome is any. -/
theorem exists_answered (answer : Probe → CheckOutcome) (supervisor : Supervisor) :
    ∃ outcome, ∀ probe rest allOk, supervisor = .ticking (probe :: rest) allOk →
      outcome = answer probe := by
  cases supervisor with
  | ticking probes allOk =>
      cases probes with
      | nil => exact ⟨.panicked, by simp⟩
      | cons probe rest =>
          refine ⟨answer probe, fun other _ _ hother => ?_⟩
          cases hother
          rfl
  | unspawned | publishing | sleeping | stopped => exact ⟨.panicked, by simp⟩

/-- Once the listener is bound, a supervisor whose transport probe answers so can always
take its next step. -/
theorem exists_steady (hinv : Inv config s) (hrunning : s.Running) (hbound : s.bound = true)
    (htransport : answer .transport = .returned true) (steps : Nat) :
    ∃ s', Steady config answer s steps s' ∧ s'.bound = true := by
  induction steps with
  | zero => exact ⟨s, .start, hbound⟩
  | succ steps ih =>
      obtain ⟨mid, hrun, hmidBound⟩ := ih
      obtain ⟨-, hmidRunning, -⟩ := hrun.near hinv hrunning
      obtain ⟨outcome, hanswer⟩ := exists_answered answer mid.supervisor
      have hadmits : ∀ probe rest allOk, mid.supervisor = .ticking (probe :: rest) allOk →
          probe.admits mid.bound outcome = true := by
        intro probe rest allOk hsupervisor
        rw [hanswer probe rest allOk hsupervisor, hmidBound]
        cases probe with
        | transport => rw [htransport]; rfl
        | dependency name => rfl
      obtain ⟨next, hstep⟩ : ∃ next, step config mid (.supervisor outcome) = some next :=
        isSome_runSupervisor hmidRunning.1 hmidRunning.2 hadmits
      refine ⟨next, .supervisor hrun hanswer hstep, ?_⟩
      rw [(supervisorMove_of_runSupervisor hstep).bound_eq]
      exact hmidBound

end Extension

section Shutdown

/-- The moves `run_kind` has before it, with the one of the supervisor it waits for. -/
def movesLeft (config : ReadinessConfig) (supervisor : Supervisor) : Runner → Nat
  | .registering names => names.length + config.serviceNames.length + 7
  | .binding => config.serviceNames.length + 6
  | .serving => config.serviceNames.length + 5
  | .aborting => config.serviceNames.length + 4
  | .joining => config.serviceNames.length + if supervisor = .stopped then 2 else 3
  | .publishing names => names.length + 1
  | .finished => 0
  | .gone => 0

def Action.isRunner : Action → Bool
  | .runner => true
  | _ => false

theorem RunnerMove.movesLeft_lt (hmove : RunnerMove config s s') :
    movesLeft config s'.supervisor s'.runner < movesLeft config s.supervisor s.runner := by
  cases hmove with
  | register hphase | publish hphase =>
      rw [hphase, movesLeft, movesLeft, List.length_cons]
      omega
  | spawn hphase =>
      rw [hphase, movesLeft, movesLeft, List.length_nil]
      omega
  | markBound hphase | served hphase =>
      rw [hphase]
      exact Nat.lt_succ_self _
  | abort hphase =>
      rw [hphase, movesLeft, movesLeft]
      split_ifs <;> omega
  | join hphase hstopped =>
      rw [hphase, movesLeft, movesLeft, if_pos hstopped]
      exact Nat.lt_succ_self _
  | finish hphase =>
      rw [hphase]
      exact Nat.succ_pos _

theorem SupervisorMove.movesLeft_eq (hmove : SupervisorMove config s s') :
    movesLeft config s'.supervisor s'.runner = movesLeft config s.supervisor s.runner := by
  obtain ⟨⟨-, hrunning⟩, -, hrunning'⟩ := hmove.running
  have hrunner : s'.runner = s.runner := by
    cases hmove with
    | check _ _ | aggregate _ | write _ | sleep _ | wake _ => rfl
  rw [hrunner]
  cases s.runner with
  | joining => rw [movesLeft, movesLeft, if_neg hrunning, if_neg hrunning']
  | registering | binding | serving | aborting | publishing | finished | gone => rfl

/-- Who waits for a task that still runs has one move more before it. -/
theorem movesLeft_stopped_le (supervisor : Supervisor) (runner : Runner) :
    movesLeft config .stopped runner ≤ movesLeft config supervisor runner := by
  cases runner with
  | joining =>
      rw [movesLeft, movesLeft, if_pos rfl]
      split_ifs <;> omega
  | registering | binding | serving | aborting | publishing | finished | gone =>
      exact Nat.le_refl _

/-- No step puts the shutdown off, and one of `run_kind` brings it nearer. -/
theorem movesLeft_step {action : Action} (hstep : step config s action = some s') :
    movesLeft config s'.supervisor s'.runner + (if action.isRunner then 1 else 0) ≤
      movesLeft config s.supervisor s.runner := by
  cases action with
  | runner => exact (runnerMove_of_runKind hstep).movesLeft_lt
  | drop =>
      obtain ⟨-, rfl⟩ := eq_of_dropRunner hstep
      exact Nat.zero_le _
  | supervisor outcome =>
      exact Nat.le_of_eq (supervisorMove_of_runSupervisor hstep).movesLeft_eq
  | cancel =>
      obtain ⟨-, -, rfl⟩ := eq_of_cancelSupervisor hstep
      exact movesLeft_stopped_le s.supervisor s.runner

theorem movesLeft_le (hinv : Inv config s) :
    movesLeft config s.supervisor s.runner ≤ 2 * config.serviceNames.length + 7 := by
  have hrunner := hinv.runner
  have hwrote := hinv.runnerWrote
  cases hphase : s.runner with
  | registering names =>
      rw [hphase] at hrunner
      have hlength := congrArg List.length hrunner.2
      rw [List.length_append] at hlength
      rw [movesLeft]
      omega
  | publishing names =>
      rw [hphase] at hwrote
      obtain ⟨done, hnames, -⟩ := hwrote
      have hlength := congrArg List.length hnames
      rw [List.length_append] at hlength
      rw [movesLeft]
      omega
  | joining =>
      rw [movesLeft]
      split_ifs <;> omega
  | binding | serving | aborting | finished | gone =>
      rw [movesLeft]
      omega

/-- `run_kind` has aborted the task that it waits for. -/
def AwaitsAborted (s : State) : Prop := s.runner = .joining → s.aborted = true

theorem awaitsAborted_step {action : Action} (hstep : step config s action = some s')
    (haborted : AwaitsAborted s) : AwaitsAborted s' := by
  cases action with
  | runner =>
      cases runnerMove_of_runKind hstep with
      | abort _ => exact fun _ => rfl
      | register _ | spawn _ | markBound _ | served _ | join _ _ | publish _ | finish _ =>
          exact fun hjoining => nomatch hjoining
  | drop =>
      obtain ⟨-, rfl⟩ := eq_of_dropRunner hstep
      exact fun hjoining => nomatch hjoining
  | supervisor outcome =>
      cases supervisorMove_of_runSupervisor hstep with
      | check _ _ | aggregate _ | write _ | sleep _ | wake _ => exact haborted
  | cancel =>
      obtain ⟨-, -, rfl⟩ := eq_of_cancelSupervisor hstep
      exact haborted

theorem cancelSupervisor_eq (hspawned : s.supervisor ≠ .unspawned)
    (hrunning : s.supervisor ≠ .stopped) (haborted : s.aborted = true) :
    cancelSupervisor s = some { s with supervisor := .stopped } := by
  rw [cancelSupervisor]
  cases hsupervisor : s.supervisor with
  | unspawned => exact absurd hsupervisor hspawned
  | stopped => exact absurd hsupervisor hrunning
  | ticking | publishing | sleeping => exact if_pos haborted

/-- `run_kind` waits for nothing but the task that it has aborted. -/
theorem isSome_runKind (hgone : s.runner ≠ .gone) (hfinished : s.runner ≠ .finished)
    (hjoined : s.runner = .joining → s.supervisor = .stopped) :
    ∃ s', step config s .runner = some s' ∧ s'.runner ≠ .gone := by
  rw [step, runKind]
  cases hphase : s.runner with
  | registering names =>
      cases names with
      | nil => exact ⟨_, rfl, by simp⟩
      | cons name rest => exact ⟨_, rfl, by simp⟩
  | binding | serving | aborting => exact ⟨_, rfl, by simp⟩
  | joining => exact ⟨_, if_pos (hjoined hphase), by simp⟩
  | publishing names =>
      cases names with
      | nil => exact ⟨_, rfl, by simp⟩
      | cons name rest => exact ⟨_, rfl, by simp⟩
  | finished => exact absurd hphase hfinished
  | gone => exact absurd hphase hgone

/-- Until it has finished, `run_kind` can go on, or the task that it waits for can stop. -/
theorem exists_move (hinv : Inv config s) (haborted : AwaitsAborted s)
    (hgone : s.runner ≠ .gone) (hfinished : s.runner ≠ .finished) :
    ∃ action s', (action = .runner ∨ action = .cancel) ∧
      step config s action = some s' ∧ s'.runner ≠ .gone ∧
      movesLeft config s'.supervisor s'.runner < movesLeft config s.supervisor s.runner := by
  by_cases hwaits : s.runner = .joining ∧ s.supervisor ≠ .stopped
  · obtain ⟨hjoining, hrunning⟩ := hwaits
    have hspawned : s.supervisor ≠ .unspawned := by
      have hrunner := hinv.runner
      rw [hjoining] at hrunner
      exact hrunner
    refine ⟨.cancel, _, Or.inr rfl,
      cancelSupervisor_eq hspawned hrunning (haborted hjoining), hgone, ?_⟩
    rw [hjoining, movesLeft, movesLeft, if_pos rfl, if_neg hrunning]
    exact Nat.lt_succ_self _
  · have hjoined : s.runner = .joining → s.supervisor = .stopped :=
      fun hjoining => not_not.mp (not_and.mp hwaits hjoining)
    obtain ⟨s', hstep, hgone'⟩ := isSome_runKind hgone hfinished hjoined
    exact ⟨.runner, s', Or.inl rfl, hstep, hgone',
      (runnerMove_of_runKind hstep).movesLeft_lt⟩

/-- From wherever it is, `run_kind` comes to its end. -/
theorem exists_finish (hreached : Reached config s) (hgone : s.runner ≠ .gone) :
    ∃ actions s', Machine.exec (step config) s actions = some s' ∧
      (∀ action ∈ actions, action = .runner ∨ action = .cancel) ∧
      s'.runner = .finished := by
  have haborted : AwaitsAborted s := hreached.keeps
    (by rintro start ⟨table, rfl⟩ hjoining; cases hjoining)
    fun _ _ _ => awaitsAborted_step
  have hprogress : ∀ s, (Inv config s ∧ AwaitsAborted s ∧ s.runner ≠ .gone) →
      ¬s.runner = .finished → ∃ action s', (action = .runner ∨ action = .cancel) ∧
        step config s action = some s' ∧
        (Inv config s' ∧ AwaitsAborted s' ∧ s'.runner ≠ .gone) ∧
        movesLeft config s'.supervisor s'.runner <
          movesLeft config s.supervisor s.runner := by
    rintro s ⟨hinv, haborted, hgone⟩ hfinished
    obtain ⟨action, s', hwho, hstep, hgone', hless⟩ :=
      exists_move hinv haborted hgone hfinished
    exact ⟨action, s', hwho, hstep,
      ⟨inv_step action hstep hinv, awaitsAborted_step hstep haborted, hgone'⟩, hless⟩
  obtain ⟨actions, s', hexec, hall, -, hfinished⟩ :=
    Machine.exists_exec_done hprogress s ⟨hreached.inv, haborted, hgone⟩
  exact ⟨actions, s', hexec, hall, hfinished⟩

end Shutdown

end Readiness

open Readiness

/-- While the probes answer alike, the statuses come to what they answer within two rounds
of the supervisor and stay there, whatever `run_kind` does in the meantime; a bound
listener lets the supervisor make these rounds.  `run_kind` makes so many moves at the
most in any interleaving, and from wherever it is it can come to its end, where every
name is `NOT_SERVING`, by moves of its own and the one of the task that it awaits. -/
theorem readiness_settles (config : ReadinessConfig) :
    (∀ answer s s' steps, Reached config s → s.Running → Steady config answer s steps s' →
      2 * roundSteps config + 2 ≤ steps →
      ∀ name ∈ config.serviceNames, s'.table name = some (dueStatus config answer)) ∧
    (∀ answer s, Reached config s → s.Running → s.bound = true →
      answer .transport = .returned true →
      ∀ steps, ∃ s', Steady config answer s steps s') ∧
    (∀ s, Reached config s → ∀ actions s', Machine.exec (step config) s actions = some s' →
      actions.countP Action.isRunner ≤ 2 * config.serviceNames.length + 7) ∧
    ∀ s, Reached config s → s.runner ≠ .gone →
      ∃ actions s', Machine.exec (step config) s actions = some s' ∧
        (∀ action ∈ actions, action = .runner ∨ action = .cancel) ∧
        s'.runner = .finished ∧
        ∀ name ∈ config.serviceNames, s'.table name = some .notServing := by
  refine ⟨?_, ?_, ?_, ?_⟩
  · intro answer s s' steps hreached hrunning hrun hsteps
    exact (hrun.settled hreached.inv hrunning hsteps).table
  · intro answer s hreached hrunning hbound htransport steps
    obtain ⟨s', hrun, -⟩ := exists_steady hreached.inv hrunning hbound htransport steps
    exact ⟨s', hrun⟩
  · intro s hreached actions s' hexec
    have hcount : actions.countP Action.isRunner +
        movesLeft config s'.supervisor s'.runner ≤
          movesLeft config s.supervisor s.runner :=
      Machine.countP_add_rank_le (fun _ _ _ hstep => movesLeft_step hstep) hexec
    have hbound := movesLeft_le hreached.inv
    omega
  · intro s hreached hgone
    obtain ⟨actions, s', hexec, hall, hfinished⟩ := exists_finish hreached hgone
    have hlast : Reached config s' := hreached.exec hexec
    have hwrote := hlast.inv.runnerWrote
    rw [hfinished] at hwrote
    exact ⟨actions, s', hexec, hall, hfinished, Written.all hwrote⟩

/-- The listener is bound; the payment domain does not answer. -/
def Sample.paymentDown : Probe → CheckOutcome
  | .transport => .returned true
  | .dependency _ => .timedOut

open Sample in
/-- The names of a saga runner that has been ready become `NOT_SERVING`, and the runner can
be shut down from there on. -/
theorem readiness_settles_sample :
    ∃ up, Machine.exec (step sagaRunner)
        { table := fun _ => none, runner := .registering sagaRunner.serviceNames }
        startUp = some up ∧
      up.table "" = some .serving ∧
      (∃ settled, Steady sagaRunner paymentDown up 12 settled ∧
        ∀ name ∈ sagaRunner.serviceNames, settled.table name = some .notServing) ∧
      ∃ actions down, Machine.exec (step sagaRunner) up actions = some down ∧
        down.runner = .finished := by
  have hstarted : ∃ up, Machine.exec (step sagaRunner)
        { table := fun _ => none, runner := .registering sagaRunner.serviceNames }
        startUp = some up ∧ up.table "" = some .serving ∧ up.supervisor =
          .publishing .serving ["angzarr.Saga"] ∧ up.bound = true ∧ up.runner = .serving :=
    ⟨_, rfl, by rfl, rfl, rfl, rfl⟩
  obtain ⟨up, hexec, hserving, hsupervisor, hbound, hrunner⟩ := hstarted
  have hreached : Reached sagaRunner up := ⟨_, startUp, ⟨_, rfl⟩, hexec⟩
  have hrunning : up.Running := by rw [State.Running, hsupervisor]; exact ⟨nofun, nofun⟩
  obtain ⟨hsettles, hsteady, -, hfinishes⟩ := readiness_settles sagaRunner
  obtain ⟨settled, hrun⟩ := hsteady paymentDown up hreached hrunning hbound rfl 12
  obtain ⟨actions, down, hdown, -, hfinished, -⟩ :=
    hfinishes up hreached (by rw [hrunner]; exact nofun)
  have hdue : dueStatus sagaRunner paymentDown = .notServing := rfl
  refine ⟨up, hexec, hserving, ⟨settled, hrun, ?_⟩, actions, down, hdown, hfinished⟩
  rw [← hdue]
  exact hsettles paymentDown up settled 12 hreached hrunning hrun (by decide)

end AngzarrClient
