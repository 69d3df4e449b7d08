/-
What holds of the health statuses across any interleaving of `run_kind` and the
readiness supervisor.  The two never write at the same time: before the spawn and
after the join only `run_kind` writes, in between only the supervisor does.
-/
import AngzarrClient.Server.Readiness

namespace AngzarrClient

namespace Readiness

def Check.ok (check : Check) : Bool := check.outcome.ok

/-- The status a tick leads to. -/
def tickStatus (tick : Tick) : ServingStatus := statusOf (tick.all Check.ok)

/-- Checks made one after the other: each ends as its probe can, and the bound
flag does not fall. -/
structure InOrder (checks : Tick) : Prop where
  admitted : ∀ check ∈ checks, check.probe.admits check.bound check.outcome = true
  rising : checks.Pairwise fun earlier later => earlier.bound = true → later.bound = true

/-- A tick checks every probe, in order. -/
structure Complete (config : ReadinessConfig) (tick : Tick) : Prop where
  probes : tick.map Check.probe = config.probes
  inOrder : InOrder tick

/-- A tick in which every probe returned true within its timeout; the transport and
the probes after it were asked once the listener was bound. -/
structure Green (config : ReadinessConfig) (tick : Tick) : Prop where
  probes : tick.map Check.probe = config.probes
  healthy : ∀ check ∈ tick, check.outcome = .returned true
  afterBound : ∃ before check after, tick = before ++ check :: after ∧
    check.probe = .transport ∧ ∀ later ∈ check :: after, later.bound = true
  allAfterBound : config.probes.head? = some .transport →
    ∀ check ∈ tick, check.bound = true

/-- A probe returned false, panicked or timed out. -/
def Failed (tick : Tick) : Prop := ∃ check ∈ tick, check.outcome ≠ .returned true

/-- All names but those of `rest` have been written with this status. -/
def Written (config : ReadinessConfig) (table : StatusTable) (status : ServingStatus)
    (rest : List String) : Prop :=
  ∃ done, done ++ rest = config.serviceNames ∧ ∀ name ∈ done, table name = some status

/-- Where the supervisor can stand while `run_kind` stands here. -/
def RunnerOk (config : ReadinessConfig) (supervisor : Supervisor)
    (registered : List String) : Runner → Prop
  | .registering names =>
      supervisor = .unspawned ∧ registered ++ names = config.serviceNames
  | .publishing _ | .finished => supervisor = .stopped
  | .gone => True
  | _ => supervisor ≠ .unspawned

/-- What the checks made so far in the tick say. -/
def CurrentOk (config : ReadinessConfig) (bound : Bool) (current : Tick) :
    Supervisor → Prop
  | .ticking rest allOk =>
      current.map Check.probe ++ rest = config.probes ∧
        allOk = current.all Check.ok ∧ InOrder current ∧
        ∀ check ∈ current, check.bound = true → bound = true
  | .stopped => True
  | _ => current = []

/-- What the supervisor has written of its last tick. -/
def SupervisorWrote (config : ReadinessConfig) (table : StatusTable) (ticks : List Tick) :
    Supervisor → Prop
  | .publishing status rest => ∃ tick, ticks.head? = some tick ∧
      status = tickStatus tick ∧ Written config table status rest
  | .sleeping => ∃ tick, ticks.head? = some tick ∧
      Written config table (tickStatus tick) []
  | _ => True

/-- What `run_kind` has written of the shutdown. -/
def RunnerWrote (config : ReadinessConfig) (table : StatusTable) : Runner → Prop
  | .publishing rest => Written config table .notServing rest
  | .finished => Written config table .notServing []
  | _ => True

/-- A registered name is `SERVING` only after a tick that was all green. -/
def Justified (registered : List String) (table : StatusTable) (ticks : List Tick) :
    Prop :=
  ∀ name ∈ registered, table name = some .serving →
    ∃ tick ∈ ticks, tickStatus tick = .serving

/-- The invariant of every interleaving. -/
structure Inv (config : ReadinessConfig) (s : State) : Prop where
  runner : RunnerOk config s.supervisor s.registered s.runner
  registered : s.supervisor ≠ .unspawned → s.registered = config.serviceNames
  stopped : s.supervisor = .stopped → s.aborted = true
  ticks : ∀ tick ∈ s.ticks, Complete config tick
  current : CurrentOk config s.bound s.current s.supervisor
  justified : Justified s.registered s.table s.ticks
  supervisorWrote : SupervisorWrote config s.table s.ticks s.supervisor
  runnerWrote : RunnerWrote config s.table s.runner

section Writes

variable {config : ReadinessConfig} {table : StatusTable} {status : ServingStatus}
  {name : String} {rest : List String}

theorem written_start : Written config table status config.serviceNames :=
  ⟨[], rfl, by simp⟩

theorem Written.write (hwritten : Written config table status (name :: rest)) :
    Written config (setServiceStatus table name status) status rest := by
  obtain ⟨done, hnames, hdone⟩ := hwritten
  refine ⟨done ++ [name], by rw [← hnames]; simp, fun other hother => ?_⟩
  by_cases hname : other = name
  · rw [hname, setServiceStatus_self]
  · rw [setServiceStatus_of_ne hname]
    apply hdone
    simpa [hname] using hother

theorem Written.all (hwritten : Written config table status []) :
    ∀ name ∈ config.serviceNames, table name = some status := by
  obtain ⟨done, hnames, hdone⟩ := hwritten
  rw [List.append_nil] at hnames
  exact hnames ▸ hdone

variable {registered : List String} {ticks : List Tick}

/-- A write keeps the statuses justified if what it writes is. -/
theorem Justified.write (hjustified : Justified registered table ticks)
    (hstatus : status = .serving → ∃ tick ∈ ticks, tickStatus tick = .serving) :
    Justified registered (setServiceStatus table name status) ticks := by
  intro other hother hserving
  by_cases hname : other = name
  · rw [hname, setServiceStatus_self] at hserving
    exact hstatus (Option.some.inj hserving)
  · rw [setServiceStatus_of_ne hname] at hserving
    exact hjustified other hother hserving

/-- So does the registration of a name. -/
theorem Justified.register (hjustified : Justified registered table ticks) :
    Justified (registered ++ [name]) (setServiceStatus table name .notServing) ticks := by
  intro other hother hserving
  by_cases hname : other = name
  · rw [hname, setServiceStatus_self] at hserving
    cases hserving
  · rw [setServiceStatus_of_ne hname] at hserving
    exact hjustified other (by simpa [hname] using hother) hserving

theorem Justified.aggregate (hjustified : Justified registered table ticks)
    (tick : Tick) : Justified registered table (tick :: ticks) := by
  intro other hother hserving
  obtain ⟨good, hgood, hstatus⟩ := hjustified other hother hserving
  exact ⟨good, List.mem_cons_of_mem tick hgood, hstatus⟩

end Writes

section Checks

variable {config : ReadinessConfig} {bound : Bool} {current : Tick}

/-- One more check, made with the flag as it is now. -/
theorem InOrder.check {probe : Probe} {outcome : CheckOutcome} (horder : InOrder current)
    (hbound : ∀ check ∈ current, check.bound = true → bound = true)
    (hadmits : probe.admits bound outcome = true) :
    InOrder (current ++ [⟨probe, bound, outcome⟩]) := by
  refine ⟨?_, ?_⟩
  · intro check hcheck
    rcases List.mem_append.mp hcheck with hcheck | hcheck
    · exact horder.admitted check hcheck
    · rw [List.mem_singleton.mp hcheck]
      exact hadmits
  · rw [List.pairwise_append]
    refine ⟨horder.rising, List.pairwise_singleton _ _, ?_⟩
    intro earlier hearlier later hlater hearly
    rw [List.mem_singleton.mp hlater]
    exact hbound earlier hearlier hearly

theorem CurrentOk.check {probe : Probe} {rest : List Probe} {allOk : Bool}
    {outcome : CheckOutcome}
    (hcurrent : CurrentOk config bound current (.ticking (probe :: rest) allOk))
    (hadmits : probe.admits bound outcome = true) :
    CurrentOk config bound (current ++ [⟨probe, bound, outcome⟩])
      (.ticking rest (allOk && outcome.ok)) := by
  obtain ⟨hprobes, hallOk, horder, hbound⟩ := hcurrent
  refine ⟨?_, ?_, horder.check hbound hadmits, ?_⟩
  · rw [← hprobes]
    simp
  · rw [hallOk, List.all_append]
    simp [Check.ok]
  · intro check hcheck hflag
    rcases List.mem_append.mp hcheck with hcheck | hcheck
    · exact hbound check hcheck hflag
    · rw [List.mem_singleton.mp hcheck] at hflag
      exact hflag

/-- The flag may rise between two checks. -/
theorem CurrentOk.markBound {supervisor : Supervisor}
    (hcurrent : CurrentOk config bound current supervisor) :
    CurrentOk config true current supervisor := by
  cases supervisor with
  | ticking rest allOk =>
      obtain ⟨hprobes, hallOk, horder, -⟩ := hcurrent
      exact ⟨hprobes, hallOk, horder, fun _ _ _ => rfl⟩
  | unspawned | publishing | sleeping | stopped => exact hcurrent

/-- A tick starts without checks. -/
theorem currentOk_start : CurrentOk config bound [] (.ticking config.probes true) :=
  ⟨rfl, rfl, ⟨by simp, List.Pairwise.nil⟩, by simp⟩

/-- When no probe is left the tick is complete. -/
theorem CurrentOk.complete {allOk : Bool}
    (hcurrent : CurrentOk config bound current (.ticking [] allOk)) :
    Complete config current ∧ statusOf allOk = tickStatus current := by
  obtain ⟨hprobes, hallOk, horder, -⟩ := hcurrent
  rw [List.append_nil] at hprobes
  exact ⟨⟨hprobes, horder⟩, by rw [hallOk, tickStatus]⟩

/-- A check came back in time and said yes. -/
theorem Check.ok_iff {check : Check} :
    check.ok = true ↔ check.outcome = .returned true := by
  obtain ⟨probe, bound, outcome⟩ := check
  cases outcome with
  | returned healthy => simp [Check.ok, CheckOutcome.ok]
  | panicked | timedOut => simp [Check.ok, CheckOutcome.ok]

/-- In an all-green tick every check came back true, that of the transport after
the listener was bound, and so were the later ones. -/
theorem Complete.green {tick : Tick} (hcomplete : Complete config tick)
    (hstatus : tickStatus tick = .serving) : Green config tick := by
  have hall : ∀ check ∈ tick, check.outcome = .returned true := by
    rw [tickStatus, statusOf_eq_serving_iff, List.all_eq_true] at hstatus
    exact fun check hcheck => Check.ok_iff.mp (hstatus check hcheck)
  have hbound : ∀ check ∈ tick, check.probe = .transport → check.bound = true := by
    intro check hcheck hprobe
    have hadmitted := hcomplete.inOrder.admitted check hcheck
    rw [hprobe, hall check hcheck] at hadmitted
    have hreturned : CheckOutcome.returned true = .returned check.bound :=
      of_decide_eq_true hadmitted
    injection hreturned with hflag
    exact hflag.symm
  have hrising := hcomplete.inOrder.rising
  refine ⟨hcomplete.probes, hall, ?_, ?_⟩
  · have htransport := config.transport_mem
    rw [← hcomplete.probes, List.mem_map] at htransport
    obtain ⟨check, hcheck, hprobe⟩ := htransport
    obtain ⟨before, after, rfl⟩ := List.append_of_mem hcheck
    rw [List.pairwise_append, List.pairwise_cons] at hrising
    refine ⟨before, check, after, rfl, hprobe, ?_⟩
    rw [List.forall_mem_cons]
    have hflag := hbound check hcheck hprobe
    exact ⟨hflag, fun later hlater => hrising.2.1.1 later hlater hflag⟩
  · intro hfirst
    cases tick with
    | nil => simp
    | cons check rest =>
        rw [← hcomplete.probes, List.map_cons, List.head?_cons] at hfirst
        rw [List.pairwise_cons] at hrising
        have hflag := hbound check List.mem_cons_self (Option.some.inj hfirst)
        rw [List.forall_mem_cons]
        exact ⟨hflag, fun later hlater => hrising.1 later hlater hflag⟩

theorem tickStatus_of_failed {tick : Tick} (hfailed : Failed tick) :
    tickStatus tick = .notServing := by
  obtain ⟨check, hcheck, houtcome⟩ := hfailed
  have hall : tick.all Check.ok = false := by
    rw [List.all_eq_false]
    exact ⟨check, hcheck, mt Check.ok_iff.mp houtcome⟩
  rw [tickStatus, hall]
  rfl

end Checks

section Steps

variable {config : ReadinessConfig} {s s' : State}

theorem inv_start (hstart : State.Start config s) : Inv config s := by
  obtain ⟨table, rfl⟩ := hstart
  exact {
    runner := ⟨rfl, rfl⟩
    registered := fun hspawned => absurd rfl hspawned
    stopped := fun hstopped => nomatch hstopped
    ticks := by simp
    current := rfl
    justified := by simp [Justified]
    supervisorWrote := trivial
    runnerWrote := trivial }

/-- `run_kind` writes only while there is no supervisor task. -/
theorem inv_runnerMove (hinv : Inv config s) (hmove : RunnerMove config s s') :
    Inv config s' := by
  have hrunnerOk := hinv.runner
  have hwrote := hinv.runnerWrote
  cases hmove with
  | register hrunner =>
      rw [hrunner] at hrunnerOk
      obtain ⟨hunspawned, hnames⟩ := hrunnerOk
      exact { hinv with
        runner := ⟨hunspawned, by rw [← hnames]; simp⟩
        registered := fun hspawned => absurd hunspawned hspawned
        justified := hinv.justified.register
        supervisorWrote := by simp [hunspawned, SupervisorWrote]
        runnerWrote := trivial }
  | spawn hrunner =>
      rw [hrunner] at hrunnerOk
      obtain ⟨hunspawned, hnames⟩ := hrunnerOk
      have hcurrent := hinv.current
      rw [hunspawned] at hcurrent
      have hempty : s.current = [] := hcurrent
      exact { hinv with
        runner := by simp [RunnerOk]
        registered := fun _ => by rw [← hnames, List.append_nil]
        stopped := fun hstopped => nomatch hstopped
        current := hempty ▸ currentOk_start
        supervisorWrote := trivial
        runnerWrote := trivial }
  | markBound hrunner =>
      rw [hrunner] at hrunnerOk
      exact { hinv with
        runner := hrunnerOk
        current := hinv.current.markBound
        runnerWrote := trivial }
  | served hrunner =>
      rw [hrunner] at hrunnerOk
      exact { hinv with runner := hrunnerOk, runnerWrote := trivial }
  | abort hrunner =>
      rw [hrunner] at hrunnerOk
      exact { hinv with
        runner := hrunnerOk
        stopped := fun _ => rfl
        runnerWrote := trivial }
  | join hrunner hstopped =>
      exact { hinv with runner := hstopped, runnerWrote := written_start }
  | publish hrunner =>
      rw [hrunner] at hrunnerOk hwrote
      have hstopped : s.supervisor = .stopped := hrunnerOk
      exact { hinv with
        runner := hstopped
        justified := hinv.justified.write (fun hserving => nomatch hserving)
        supervisorWrote := by simp [hstopped, SupervisorWrote]
        runnerWrote := hwrote.write }
  | finish hrunner =>
      rw [hrunner] at hrunnerOk hwrote
      exact { hinv with runner := hrunnerOk, runnerWrote := hwrote }

/-- A task that steps is neither unspawned nor stopped, and stays so. -/
theorem SupervisorMove.running (hmove : SupervisorMove config s s') :
    (s.supervisor ≠ .unspawned ∧ s.supervisor ≠ .stopped) ∧
      s'.supervisor ≠ .unspawned ∧ s'.supervisor ≠ .stopped := by
  cases hmove with
  | check hsupervisor _ | aggregate hsupervisor | write hsupervisor | sleep hsupervisor
  | wake hsupervisor => simp [hsupervisor]

section Running

variable {supervisor next : Supervisor} {registered : List String} {runner : Runner}
  (hrunner : RunnerOk config supervisor registered runner)
  (hrunning : supervisor ≠ .unspawned ∧ supervisor ≠ .stopped)
include hrunner hrunning

/-- Where `run_kind` can stand does not depend on the await the task is at. -/
theorem RunnerOk.of_running (hnext : next ≠ .unspawned) :
    RunnerOk config next registered runner := by
  cases runner with
  | registering names => exact absurd hrunner.1 hrunning.1
  | publishing names => exact absurd hrunner hrunning.2
  | finished => exact absurd hrunner hrunning.2
  | binding | serving | aborting | joining => exact hnext
  | gone => trivial

/-- The shutdown has not begun while the task runs. -/
theorem RunnerOk.runnerWrote (table : StatusTable) : RunnerWrote config table runner := by
  cases runner with
  | publishing names => exact absurd hrunner hrunning.2
  | finished => exact absurd hrunner hrunning.2
  | registering | binding | serving | aborting | joining | gone => trivial

end Running

/-- The supervisor writes what its last tick says. -/
theorem inv_supervisorMove (hinv : Inv config s) (hmove : SupervisorMove config s s') :
    Inv config s' := by
  obtain ⟨hrunning, hspawned, hnotStopped⟩ := hmove.running
  have hcurrent := hinv.current
  have hwrote := hinv.supervisorWrote
  have hregistered := hinv.registered hrunning.1
  cases hmove with
  | check hsupervisor hadmits =>
      rw [hsupervisor] at hcurrent
      exact { hinv with
        runner := hinv.runner.of_running hrunning hspawned
        registered := fun _ => hregistered
        stopped := fun hstopped => absurd hstopped hnotStopped
        current := hcurrent.check hadmits
        supervisorWrote := trivial }
  | aggregate hsupervisor =>
      rw [hsupervisor] at hcurrent
      obtain ⟨hcomplete, hstatus⟩ := hcurrent.complete
      exact { hinv with
        runner := hinv.runner.of_running hrunning hspawned
        registered := fun _ => hregistered
        stopped := fun hstopped => absurd hstopped hnotStopped
        ticks := List.forall_mem_cons.mpr ⟨hcomplete, hinv.ticks⟩
        current := rfl
        justified := hinv.justified.aggregate s.current
        supervisorWrote := ⟨s.current, rfl, hstatus, written_start⟩ }
  | write hsupervisor =>
      rw [hsupervisor] at hwrote
      obtain ⟨tick, hlast, hstatus, hwritten⟩ := hwrote
      exact { hinv with
        runner := hinv.runner.of_running hrunning hspawned
        registered := fun _ => hregistered
        stopped := fun hstopped => absurd hstopped hnotStopped
        current := by rw [hsupervisor] at hcurrent; exact hcurrent
        justified := hinv.justified.write fun hserving =>
          ⟨tick, List.mem_of_mem_head? hlast, hstatus.symm.trans hserving⟩
        supervisorWrote := ⟨tick, hlast, hstatus, hwritten.write⟩
        runnerWrote := hinv.runner.runnerWrote hrunning _ }
  | sleep hsupervisor =>
      rw [hsupervisor] at hcurrent hwrote
      obtain ⟨tick, hlast, rfl, hwritten⟩ := hwrote
      exact { hinv with
        runner := hinv.runner.of_running hrunning hspawned
        registered := fun _ => hregistered
        stopped := fun hstopped => absurd hstopped hnotStopped
        current := hcurrent
        supervisorWrote := ⟨tick, hlast, hwritten⟩ }
  | wake hsupervisor =>
      rw [hsupervisor] at hcurrent
      have hempty : s.current = [] := hcurrent
      exact { hinv with
        runner := hinv.runner.of_running hrunning hspawned
        registered := fun _ => hregistered
        stopped := fun hstopped => absurd hstopped hnotStopped
        current := hempty ▸ currentOk_start
        supervisorWrote := trivial }

/-- A cancelled task leaves the rest to `run_kind`. -/
theorem inv_cancel (hinv : Inv config s) (hstep : cancelSupervisor s = some s') :
    Inv config s' := by
  obtain ⟨hspawned, haborted, rfl⟩ := eq_of_cancelSupervisor hstep
  have hrunnerOk := hinv.runner
  have hrunner : RunnerOk config .stopped s.registered s.runner := by
    cases hphase : s.runner with
    | registering names =>
        rw [hphase] at hrunnerOk
        exact absurd hrunnerOk.1 hspawned
    | publishing | finished => rfl
    | binding | serving | aborting | joining => simp [RunnerOk]
    | gone => trivial
  exact { hinv with
    runner := hrunner
    registered := fun _ => hinv.registered hspawned
    stopped := fun _ => haborted
    current := trivial
    supervisorWrote := trivial }

/-- A `run_kind` that is gone writes nothing more. -/
theorem inv_drop (hinv : Inv config s) (hstep : dropRunner s = some s') :
    Inv config s' := by
  obtain ⟨-, rfl⟩ := eq_of_dropRunner hstep
  exact { hinv with runner := trivial, runnerWrote := trivial }

theorem inv_step (action : Action) (hstep : step config s action = some s')
    (hinv : Inv config s) : Inv config s' := by
  cases action with
  | runner => exact inv_runnerMove hinv (runnerMove_of_runKind hstep)
  | drop => exact inv_drop hinv hstep
  | supervisor outcome =>
      exact inv_supervisorMove hinv (supervisorMove_of_runSupervisor hstep)
  | cancel => exact inv_cancel hinv hstep

theorem Reached.inv (hreached : Reached config s) : Inv config s :=
  hreached.keeps (fun _ hstart => inv_start hstart) fun _ action _ hstep =>
    inv_step action hstep

end Steps

section Runs

variable {config : ReadinessConfig} {s s' : State}

def Action.isSupervisor : Action → Bool
  | .supervisor _ => true
  | _ => false

/-- The supervisor is through with the checks of the tick and has this many steps
to go until all of its names are written and it sleeps. -/
def Announces (config : ReadinessConfig) (tick : Tick) (s : State) (steps : Nat) : Prop :=
  match s.supervisor with
  | .ticking [] _ => s.current = tick ∧ steps = config.serviceNames.length + 2
  | .publishing _ rest => s.ticks.head? = some tick ∧ steps = rest.length + 1
  | .sleeping => s.ticks.head? = some tick ∧ steps = 0
  | _ => False

theorem Announces.sleeping {tick : Tick} (hannounces : Announces config tick s 0) :
    s.supervisor = .sleeping ∧ s.ticks.head? = some tick := by
  rw [Announces] at hannounces
  split at hannounces
  · cases hannounces.2
  · cases hannounces.2
  · rename_i hsupervisor
    exact ⟨hsupervisor, hannounces.1⟩
  · exact hannounces.elim

theorem Announces.spawned {tick : Tick} {steps : Nat}
    (hannounces : Announces config tick s steps) : s.supervisor ≠ .unspawned := by
  intro hunspawned
  rw [Announces, hunspawned] at hannounces
  exact hannounces

/-- `run_kind` does not touch a supervisor that it has spawned. -/
theorem RunnerMove.supervisor_eq (hinv : Inv config s)
    (hspawned : s.supervisor ≠ .unspawned) (hmove : RunnerMove config s s') :
    s'.supervisor = s.supervisor ∧ s'.current = s.current ∧ s'.ticks = s.ticks := by
  cases hmove with
  | spawn hrunner =>
      have hrunnerOk := hinv.runner
      rw [hrunner] at hrunnerOk
      exact absurd hrunnerOk.1 hspawned
  | register _ | markBound _ | served _ | abort _ | join _ _ | publish _ | finish _ =>
      exact ⟨rfl, rfl, rfl⟩

theorem Announces.congr {tick : Tick} {steps : Nat}
    (hannounces : Announces config tick s steps)
    (hsame : s'.supervisor = s.supervisor ∧ s'.current = s.current ∧ s'.ticks = s.ticks) :
    Announces config tick s' steps := by
  rw [Announces, hsame.1, hsame.2.1, hsame.2.2]
  exact hannounces

/-- Each step of the supervisor brings it one nearer to sleep. -/
theorem Announces.supervisorMove {tick : Tick} {steps : Nat}
    (hannounces : Announces config tick s (steps + 1))
    (hmove : SupervisorMove config s s') : Announces config tick s' steps := by
  rw [Announces] at hannounces
  cases hmove with
  | check hsupervisor _ => rw [hsupervisor] at hannounces; exact hannounces.elim
  | aggregate hsupervisor =>
      rw [hsupervisor] at hannounces
      obtain ⟨rfl, hsteps⟩ := hannounces
      exact ⟨rfl, Nat.succ_inj.mp hsteps⟩
  | write hsupervisor =>
      rw [hsupervisor] at hannounces
      exact ⟨hannounces.1, Nat.succ_inj.mp hannounces.2⟩
  | sleep hsupervisor =>
      rw [hsupervisor] at hannounces
      exact ⟨hannounces.1, Nat.succ_inj.mp hannounces.2⟩
  | wake hsupervisor => rw [hsupervisor] at hannounces; cases hannounces.2

/-- However the two tasks interleave, that many steps of the supervisor lead to
sleep. -/
theorem Announces.exec {tick : Tick} {steps : Nat} {actions : List Action}
    (hinv : Inv config s) (hannounces : Announces config tick s steps)
    (hexec : Machine.exec (step config) s actions = some s')
    (hcancel : Action.cancel ∉ actions)
    (hsteps : actions.countP Action.isSupervisor = steps) :
    s'.supervisor = .sleeping ∧ s'.ticks.head? = some tick := by
  induction actions generalizing s steps with
  | nil =>
      cases hexec
      cases hsteps
      exact hannounces.sleeping
  | cons action rest ih =>
      obtain ⟨mid, hfirst, hrest⟩ := Machine.exec_cons_eq_some_iff.mp hexec
      have hmid := inv_step action hfirst hinv
      rw [List.mem_cons, not_or] at hcancel
      cases action with
      | runner =>
          have hmove := runnerMove_of_runKind hfirst
          have hsame := hmove.supervisor_eq hinv hannounces.spawned
          exact ih hmid (hannounces.congr hsame) hrest hcancel.2 hsteps
      | drop =>
          obtain ⟨-, rfl⟩ := eq_of_dropRunner hfirst
          exact ih hmid (hannounces.congr ⟨rfl, rfl, rfl⟩) hrest hcancel.2 hsteps
      | supervisor outcome =>
          have hmove := supervisorMove_of_runSupervisor hfirst
          rw [List.countP_cons_of_pos rfl] at hsteps
          subst hsteps
          exact ih hmid (hannounces.supervisorMove hmove) hrest hcancel.2 rfl
      | cancel => exact absurd rfl hcancel.1

/-- The supervisor can always go on, whatever the outcome of a pending check. -/
theorem isSome_runSupervisor {outcome : CheckOutcome}
    (hspawned : s.supervisor ≠ .unspawned) (hrunning : s.supervisor ≠ .stopped)
    (hadmits : ∀ probe rest allOk, s.supervisor = .ticking (probe :: rest) allOk →
      probe.admits s.bound outcome = true) :
    ∃ s', step config s (.supervisor outcome) = some s' := by
  rw [step, runSupervisor]
  cases hsupervisor : s.supervisor with
  | unspawned => exact absurd hsupervisor hspawned
  | stopped => exact absurd hsupervisor hrunning
  | ticking probes allOk =>
      cases probes with
      | nil => exact ⟨_, rfl⟩
      | cons probe rest => exact ⟨_, if_pos (hadmits probe rest allOk hsupervisor)⟩
  | publishing status names =>
      cases names with
      | nil => exact ⟨_, rfl⟩
      | cons name rest => exact ⟨_, rfl⟩
  | sleeping => exact ⟨_, rfl⟩

/-- After the shutdown neither task takes a step. -/
theorem step_eq_none_of_finished (hinv : Inv config s) (hfinished : s.runner = .finished)
    (action : Action) : step config s action = none := by
  have hrunner := hinv.runner
  rw [hfinished] at hrunner
  have hstopped : s.supervisor = .stopped := hrunner
  cases action with
  | runner => rw [step, runKind, hfinished]
  | drop => rw [step, dropRunner, hfinished]
  | supervisor outcome => rw [step, runSupervisor, hstopped]
  | cancel => rw [step, cancelSupervisor, hstopped]

end Runs

end Readiness

open Readiness

/-- Across any interleaving of the two tasks: a registered name is `SERVING` only
after a tick that was all green; a failed tick writes `NOT_SERVING` for every name
within so many steps of the supervisor, which can take its next step whatever
becomes of a check and stops only when aborted; and once `run_kind` has finished,
every registered name is `NOT_SERVING` for good. -/
theorem readiness_across_interleavings (config : ReadinessConfig) :
    (∀ s, Reached config s → ∀ name ∈ s.registered, s.table name = some .serving →
      ∃ tick ∈ s.ticks, Green config tick) ∧
    (∀ s tick, Reached config s → Failed tick →
      (s.supervisor = .sleeping → s.ticks.head? = some tick →
        ∀ name ∈ config.serviceNames, s.table name = some .notServing) ∧
      ∀ steps, Announces config tick s steps →
        ∀ actions s', Machine.exec (step config) s actions = some s' →
          Action.cancel ∉ actions → actions.countP Action.isSupervisor = steps →
          s'.supervisor = .sleeping ∧
            ∀ name ∈ config.serviceNames, s'.table name = some .notServing) ∧
    (∀ s, Reached config s → s.supervisor ≠ .unspawned →
      (s.supervisor = .stopped → s.aborted = true) ∧
      (s.supervisor ≠ .stopped → ∀ outcome,
        (∀ probe rest allOk, s.supervisor = .ticking (probe :: rest) allOk →
          probe.admits s.bound outcome = true) →
        ∃ s', step config s (.supervisor outcome) = some s')) ∧
    ∀ s, Reached config s → s.runner = .finished →
      ∀ actions s', Machine.exec (step config) s actions = some s' →
        ∀ name ∈ s'.registered, s'.table name = some .notServing := by
  have hsleeping : ∀ s tick, Inv config s → Failed tick → s.supervisor = .sleeping →
      s.ticks.head? = some tick →
      ∀ name ∈ config.serviceNames, s.table name = some .notServing := by
    intro s tick hinv hfailed hsupervisor hlast
    have hwrote := hinv.supervisorWrote
    rw [hsupervisor] at hwrote
    obtain ⟨last, hhead, hwritten⟩ := hwrote
    rw [hlast, Option.some.injEq] at hhead
    subst hhead
    rw [tickStatus_of_failed hfailed] at hwritten
    exact hwritten.all
  refine ⟨?_, ?_, ?_, ?_⟩
  · intro s hreached name hname hserving
    obtain ⟨tick, htick, hstatus⟩ := hreached.inv.justified name hname hserving
    exact ⟨tick, htick, (hreached.inv.ticks tick htick).green hstatus⟩
  · intro s tick hreached hfailed
    refine ⟨hsleeping s tick hreached.inv hfailed, ?_⟩
    intro steps hannounces actions s' hexec hcancel hsteps
    obtain ⟨hasleep, hlast⟩ := hannounces.exec hreached.inv hexec hcancel hsteps
    have hlater : Reached config s' := hreached.exec hexec
    exact ⟨hasleep, hsleeping s' tick hlater.inv hfailed hasleep hlast⟩
  · intro s hreached hspawned
    refine ⟨hreached.inv.stopped, fun hrunning outcome hadmits => ?_⟩
    exact isSome_runSupervisor hspawned hrunning hadmits
  · intro s hreached hfinished actions s' hexec
    have hinv := hreached.inv
    have hsame : s' = s := Machine.eq_of_exec_of_halted
      (step_eq_none_of_finished hinv hfinished) hexec
    have hrunner := hinv.runner
    have hwrote := hinv.runnerWrote
    rw [hfinished] at hrunner hwrote
    have hstopped : s.supervisor = .stopped := hrunner
    rw [hsame, hinv.registered (by simp [hstopped])]
    exact Written.all hwrote

namespace Sample

/-- Probes that ask the payment domain before the transport. -/
def lateTransport : ReadinessConfig where
  probes := [.dependency "payment", .transport]
  serviceNames := ["", "angzarr.Saga"]
  transport_mem := List.mem_cons_of_mem _ List.mem_cons_self

/-- The listener is bound between the two checks of the first tick; the supervisor has
written the first name. -/
def boundInBetween : List Action :=
  [.runner, .runner, .runner, .supervisor (.returned true), .runner,
    .supervisor (.returned true), .supervisor .timedOut, .supervisor .timedOut]

end Sample

open Sample in
/-- Behind another probe, the transport probe vouches for the rest of its tick only. -/
theorem serving_after_tick_begun_unbound :
    ∃ up, Machine.exec (step lateTransport)
        { table := fun _ => none, runner := .registering lateTransport.serviceNames }
        boundInBetween = some up ∧
      "" ∈ up.registered ∧ up.table "" = some .serving ∧
      ¬∃ tick ∈ up.ticks, ∀ check ∈ tick,
        check.outcome = .returned true ∧ check.bound = true := by
  refine ⟨_, rfl, List.mem_cons_self, by rfl, ?_⟩
  rintro ⟨tick, htick, hchecks⟩
  rw [List.mem_singleton.mp htick] at hchecks
  have hfirst := (hchecks _ List.mem_cons_self).2
  cases hfirst

namespace Sample

/-- A saga runner that sends synchronously to the payment domain. -/
def sagaRunner : ReadinessConfig :=
  .ofRunKind ["payment"] false none "angzarr.Saga"

/-- A failed tick, since the listener is not bound yet, and a green one; the
supervisor has just written the first name of it. -/
def startUp : List Action :=
  [.runner, .runner, .runner, .supervisor (.returned false), .runner,
    .supervisor (.returned true), .supervisor .timedOut, .supervisor .timedOut,
    .supervisor .timedOut, .supervisor .timedOut, .supervisor .timedOut,
    .supervisor (.returned true), .supervisor (.returned true), .supervisor .timedOut,
    .supervisor .timedOut]

/-- The server returns, and the abort lands between the two names. -/
def shutDown : List Action :=
  [.runner, .runner, .cancel, .runner, .runner, .runner, .runner]

end Sample

open Sample in
/-- The overall name is `SERVING` after the green tick, and `NOT_SERVING` after the
shutdown. -/
theorem readiness_across_interleavings_sample :
    ∃ up down, Machine.exec (step sagaRunner)
        { table := fun _ => none, runner := .registering sagaRunner.serviceNames }
        startUp = some up ∧
      up.table "" = some .serving ∧ (∃ tick ∈ up.ticks, Green sagaRunner tick) ∧
      Machine.exec (step sagaRunner) up shutDown = some down ∧
      ∀ name ∈ down.registered, down.table name = some .notServing := by
  refine ⟨_, _, rfl, by rfl, ?_, rfl, ?_⟩
  · refine (readiness_across_interleavings sagaRunner).1 _ ⟨_, startUp, ⟨_, rfl⟩, rfl⟩ ""
      (by decide) (by rfl)
  · refine (readiness_across_interleavings sagaRunner).2.2.2 _
      ⟨_, startUp ++ shutDown, ⟨fun _ => none, rfl⟩, rfl⟩ rfl [] _ rfl

end AngzarrClient
