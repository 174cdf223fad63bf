import Mathlib.Data.Rat.Defs
import PaybondKit.Foundation.Transitions
import PaybondKit.Policy.Reload

/-!
# The policy file watcher

The watch loop compares the modification time of the policy file with the one it
recorded, and the poll loop reloads at intervals. Both go through one trigger, which
does nothing while a reload is in flight. The loops run on one event loop and give way
where they await; the file is changed from outside at any time.
-/

namespace PaybondKit.Policy

/-- `watch` is true for a mapping with a debounce interval too. -/
structure PaybondPolicyReloadBindConfig where
  watch : Bool
  poll : Option PaybondPolicyReloadPollConfig
  deriving DecidableEq, Repr

structure PaybondPolicyReloadControllerState where
  watch : Bool := false
  poll : Bool := false
  policyFilePath : Option String := none
  lastReloadAt : Option String := none
  lastReloadError : Option String := none
  deriving DecidableEq, Repr

/-- Where the watch task stands. It awaits in `sleeping` and `reloading`. -/
inductive WatchPhase where
  | created
  /-- The file was found before the loop, and its first time is to be read. -/
  | recording
  | sleeping
  /-- The file was found again. -/
  | comparing
  /-- Another time was recorded, and the trigger is next. -/
  | triggering
  | reloading
  | done
  deriving DecidableEq, Repr

inductive PollPhase where
  | created
  | sleeping
  | reloading
  | done
  deriving DecidableEq, Repr

structure PaybondPolicyReloadController where
  policyFilePath : String
  reloadDefaults : PaybondPolicyReloadOptions
  pollConfig : PaybondPolicyReloadPollConfig
  state : PaybondPolicyReloadControllerState
  watchTask : WatchPhase
  pollTask : PollPhase
  /-- `last_mtime`, a local of the watch loop. -/
  lastMtime : Option ℚ := none
  reloadInFlight : Bool := false
  stopEvent : Bool := false

/-- A reload that was started: how many changes the file had seen, and the options. -/
structure ReloadAttempt where
  changes : ℕ
  options : PaybondPolicyReloadOptions
  deriving DecidableEq, Repr

/-- The controller beside the file it watches. Changes count from the policy that the
run was bound with. -/
structure Watched where
  controller : PaybondPolicyReloadController
  /-- The modification time, where the file exists. -/
  file : Option ℚ
  changes : ℕ := 0
  lastAttempt : Option ReloadAttempt := none

/-- What the runner's reload came to. -/
inductive ReloadOutcome where
  | returned (result : PaybondPolicyReloadResult) (now : String)
  | raised (message : String)
  deriving DecidableEq, Repr

/-! ## The controller -/

/-- `PaybondPolicyReloadController.start`, from the resolved path of the file. -/
def startController (config : PaybondPolicyReloadBindConfig) (resolvedPath : String) :
    Option PaybondPolicyReloadController :=
  if !config.watch && config.poll.isNone then none
  else
    let pollCfg := config.poll.getD {}
    some {
      policyFilePath := resolvedPath
      reloadDefaults :=
        { file := some resolvedPath
          remote := pollCfg.remote.getD false
          resolveInheritance := pollCfg.resolveInheritance.getD false
          gateway := pollCfg.gateway }
      pollConfig := pollCfg
      state :=
        { watch := config.watch
          poll := config.poll.isSome
          policyFilePath := some resolvedPath }
      watchTask := if config.watch then .created else .done
      pollTask := if config.poll.isSome then .created else .done }

namespace PaybondPolicyReloadController

variable (controller : PaybondPolicyReloadController)

/-- The options of the watch loop's trigger. -/
def watchOptions : PaybondPolicyReloadOptions :=
  { controller.reloadDefaults with remote := false, file := some controller.policyFilePath }

/-- The options of the poll loop's trigger. -/
def pollOptions : PaybondPolicyReloadOptions :=
  { controller.reloadDefaults with
    remote := controller.pollConfig.remote.getD true
    resolveInheritance := controller.pollConfig.resolveInheritance.getD true
    gateway := controller.pollConfig.gateway || controller.reloadDefaults.gateway
    file := some controller.policyFilePath }

/-- The head of the watch loop. -/
def watchAgain : PaybondPolicyReloadController :=
  { controller with watchTask := if controller.stopEvent then .done else .sleeping }

/-- The head of the poll loop. -/
def pollAgain : PaybondPolicyReloadController :=
  { controller with pollTask := if controller.stopEvent then .done else .sleeping }

/-- A look of the watch loop at the file. A file that is gone when its time is read ends
the task. -/
def lookAt (file : Option ℚ) : PaybondPolicyReloadController :=
  match controller.watchTask, file with
  | .created, none => { controller with lastMtime := some 0 }.watchAgain
  | .created, some _ => { controller with watchTask := .recording }
  | .recording, none => { controller with watchTask := .done }
  | .recording, some mtime => { controller with lastMtime := some mtime }.watchAgain
  | .sleeping, none => controller.watchAgain
  | .sleeping, some _ => { controller with watchTask := .comparing }
  | .comparing, none => { controller with watchTask := .done }
  | .comparing, some mtime =>
      if controller.lastMtime = some mtime then controller.watchAgain
      else { controller with lastMtime := some mtime, watchTask := .triggering }
  | _, _ => controller

/-- The end of `_trigger_reload`. -/
def finishReload (outcome : ReloadOutcome) : PaybondPolicyReloadController :=
  { controller with
    reloadInFlight := false
    state := match outcome with
      | .returned result now =>
          if result.applied then
            { controller.state with lastReloadAt := some now, lastReloadError := none }
          else controller.state
      | .raised message => { controller.state with lastReloadError := some message } }

/-- The watch task is between two awaits, and nothing else runs on the event loop. -/
def InTurn : Prop :=
  controller.watchTask = .recording ∨ controller.watchTask = .comparing ∨
    controller.watchTask = .triggering

instance : Decidable controller.InTurn := inferInstanceAs (Decidable (_ ∨ _ ∨ _))

end PaybondPolicyReloadController

/-! ## The loops beside the file -/

inductive WatcherAction where
  /-- The file is written or removed, by another program. -/
  | changeFile (mtime : Option ℚ)
  /-- The watch task goes on to its next look at the file, trigger or await. -/
  | watchTurn
  | watchReloaded (outcome : ReloadOutcome)
  | watchCancelled
  | pollTurn
  | pollReloaded (outcome : ReloadOutcome)
  | pollCancelled
  | stop
  deriving DecidableEq, Repr

namespace Watched

variable (world : Watched)

/-- `_trigger_reload` up to the runner's reload; `none` when a reload is in flight. -/
def triggerReload (options : PaybondPolicyReloadOptions) : Option Watched :=
  if world.controller.reloadInFlight then none
  else some { world with
    controller := { world.controller with reloadInFlight := true }
    lastAttempt := some ⟨world.changes, options⟩ }

/-- The watch task takes up the reload it started, or goes on with its loop. -/
def watchTriggered : Watched :=
  match world.triggerReload world.controller.watchOptions with
  | none => { world with controller := world.controller.watchAgain }
  | some started =>
      { started with controller := { started.controller with watchTask := .reloading } }

def pollTriggered : Watched :=
  match world.triggerReload world.controller.pollOptions with
  | none => { world with controller := world.controller.pollAgain }
  | some started =>
      { started with controller := { started.controller with pollTask := .reloading } }

/-- `_mtime_poll_fallback`, one look at the file or one trigger at a time. -/
def mtimePollTurn : Option Watched :=
  match world.controller.watchTask with
  | .triggering => some world.watchTriggered
  | .reloading => none
  | .done => none
  | _ => some { world with controller := world.controller.lookAt world.file }

/-- `_gateway_poll_loop`, from one await to the next. -/
def gatewayPollTurn : Option Watched :=
  match world.controller.pollTask with
  | .created => some { world with controller := world.controller.pollAgain }
  | .sleeping => some world.pollTriggered
  | .reloading => none
  | .done => none

/-- A cancelled task leaves where it awaits, and a reload it started lowers the flag. -/
def cancelWatch : Option Watched :=
  if world.controller.InTurn ∨ world.controller.watchTask = .done then none
  else some { world with controller :=
    { world.controller with
      watchTask := .done
      reloadInFlight := world.controller.reloadInFlight &&
        world.controller.watchTask ≠ .reloading } }

def cancelPoll : Option Watched :=
  if world.controller.pollTask = .done then none
  else some { world with controller :=
    { world.controller with
      pollTask := .done
      reloadInFlight := world.controller.reloadInFlight &&
        world.controller.pollTask ≠ .reloading } }

/-- The steps of the two tasks and of their surroundings. While the watch task is between
two awaits, only the file changes beside it. -/
def act (world : Watched) : WatcherAction → Option Watched
  | .changeFile mtime => some { world with file := mtime, changes := world.changes + 1 }
  | .watchTurn => world.mtimePollTurn
  | .watchReloaded outcome =>
      if world.controller.watchTask = .reloading then
        some { world with controller := (world.controller.finishReload outcome).watchAgain }
      else none
  | .watchCancelled => if world.controller.stopEvent then world.cancelWatch else none
  | .pollTurn => if world.controller.InTurn then none else world.gatewayPollTurn
  | .pollReloaded outcome =>
      if ¬world.controller.InTurn ∧ world.controller.pollTask = .reloading then
        some { world with controller := (world.controller.finishReload outcome).pollAgain }
      else none
  | .pollCancelled =>
      if ¬world.controller.InTurn ∧ world.controller.stopEvent then world.cancelPoll else none
  | .stop =>
      if world.controller.InTurn then none
      else some { world with controller := { world.controller with stopEvent := true } }

/-- The controller as it starts, beside the file as it is then. -/
def begin (controller : PaybondPolicyReloadController) (file : Option ℚ) : Watched where
  controller
  file

/-! ## No change is lost -/

/-- The last attempt started after every change. -/
def Covered : Prop :=
  world.changes = 0 ∨ world.lastAttempt.map (·.changes) = some world.changes

/-- The watch loop has recorded the file's time. -/
def Recorded : Prop := world.file.isSome ∧ world.controller.lastMtime = world.file

/-- Between the turns of the loops and with no reload at work, a file whose time is
recorded was reloaded after its last change. -/
def ChangeNoticed : Prop :=
  ¬world.controller.InTurn → world.controller.reloadInFlight = false → world.Recorded →
    world.Covered

/-- A change gives the file another time than the one recorded; nothing uncovered
happened before the first time is read; and no trigger for the file as it is falls into
a reload that started before its last change. -/
def Watchful (world : Watched) : WatcherAction → Prop
  | .changeFile mtime => mtime.isSome → world.controller.lastMtime ≠ mtime
  | .watchTurn =>
      (world.controller.watchTask = .recording → world.file.isSome → world.Covered) ∧
        (world.controller.watchTask = .triggering → world.controller.reloadInFlight →
          world.Recorded → world.Covered)
  | _ => True

instance : Decidable world.Covered := inferInstanceAs (Decidable (_ ∨ _))

instance : Decidable world.Recorded := inferInstanceAs (Decidable (_ ∧ _))

instance : Decidable world.ChangeNoticed := inferInstanceAs (Decidable (_ → _ → _ → _))

instance : DecidablePred world.Watchful := fun action => by
  cases action <;> unfold Watchful <;> infer_instance

/-- A recorded time is covered, but for the moment before the trigger. -/
def Noted : Prop := world.Recorded → world.Covered ∨ world.controller.watchTask = .triggering

variable {world} {next : Watched} {action : WatcherAction}

theorem Noted.begin (controller : PaybondPolicyReloadController) (file : Option ℚ)
    (hmtime : controller.lastMtime = none) : (begin controller file).Noted := by
  rintro ⟨hfile, hrecorded⟩
  have hnone : file = none := hrecorded.symm.trans hmtime
  rw [Watched.begin, hnone] at hfile
  cases hfile

/-- A change of the other fields keeps a noted time, outside the moment of the trigger. -/
theorem Noted.congr (hnoted : world.Noted) (hnot : world.controller.watchTask ≠ .triggering)
    (hfile : next.file = world.file) (hmtime : next.controller.lastMtime =
      world.controller.lastMtime) (hchanges : next.changes = world.changes)
    (hattempt : next.lastAttempt = world.lastAttempt) : next.Noted := by
  intro hrecorded
  have hcovered : world.Covered := by
    refine (hnoted ?_).resolve_right hnot
    rwa [Recorded, ← hfile, ← hmtime]
  left
  rwa [Covered, hchanges, hattempt]

theorem covered_triggerReload {options : PaybondPolicyReloadOptions}
    (hstart : world.triggerReload options = some next) : next.Covered := by
  rw [triggerReload] at hstart
  split at hstart
  next => cases hstart
  next =>
    obtain rfl := Option.some.inj hstart
    exact .inr rfl

theorem triggerReload_eq_none {options : PaybondPolicyReloadOptions} :
    world.triggerReload options = none ↔ world.controller.reloadInFlight := by
  rw [triggerReload]
  split
  next hflight => exact ⟨fun _ => hflight, fun _ => rfl⟩
  next hflight => exact ⟨fun hnone => (nomatch hnone), fun h => absurd h hflight⟩

theorem Noted.watchTriggered
    (hwatchful : world.controller.reloadInFlight → world.Recorded → world.Covered) :
    world.watchTriggered.Noted := by
  intro hrecorded
  left
  unfold Watched.watchTriggered at hrecorded ⊢
  cases hstart : world.triggerReload world.controller.watchOptions with
  | none =>
      rw [hstart] at hrecorded
      exact hwatchful (triggerReload_eq_none.mp hstart) hrecorded
  | some started =>
      have hcovered : started.Covered := covered_triggerReload hstart
      exact hcovered

theorem Noted.pollTriggered (hnoted : world.Noted)
    (hnot : world.controller.watchTask ≠ .triggering) : world.pollTriggered.Noted := by
  unfold Watched.pollTriggered
  cases hstart : world.triggerReload world.controller.pollOptions with
  | none => exact hnoted.congr hnot rfl rfl rfl rfl
  | some started =>
      have hcovered : started.Covered := covered_triggerReload hstart
      exact fun _ => .inl hcovered

/-- A look records a time only where it was covered, or goes on to trigger. -/
theorem Noted.lookAt (hnoted : world.Noted)
    (hnot : world.controller.watchTask ≠ .triggering)
    (hwatchful : world.controller.watchTask = .recording → world.file.isSome → world.Covered) :
    Noted { world with controller := world.controller.lookAt world.file } := by
  unfold PaybondPolicyReloadController.lookAt
  split
  next _ hfile => exact fun hrecorded => absurd hrecorded.1 (by rw [hfile]; decide)
  next => exact hnoted.congr hnot rfl rfl rfl rfl
  next => exact hnoted.congr hnot rfl rfl rfl rfl
  next htask hfile =>
    have hcovered : world.Covered := hwatchful htask (by rw [hfile]; rfl)
    exact fun _ => .inl hcovered
  next => exact hnoted.congr hnot rfl rfl rfl rfl
  next => exact hnoted.congr hnot rfl rfl rfl rfl
  next => exact hnoted.congr hnot rfl rfl rfl rfl
  next mtime _ hfile =>
    -- the recorded time is the file's again only when the trigger is next
    split
    next => exact hnoted.congr hnot rfl rfl rfl rfl
    next => exact fun _ => .inr rfl
  next => exact hnoted

theorem Noted.mtimePollTurn (hnoted : world.Noted) (hwatchful : world.Watchful .watchTurn)
    (hturn : world.mtimePollTurn = some next) : next.Noted := by
  obtain ⟨hrecording, htriggering⟩ := hwatchful
  unfold Watched.mtimePollTurn at hturn
  split at hturn
  next htask =>
    obtain rfl := Option.some.inj hturn
    exact .watchTriggered (htriggering htask)
  next => cases hturn
  next => cases hturn
  next hnot _ _ =>
    obtain rfl := Option.some.inj hturn
    exact hnoted.lookAt hnot hrecording

theorem Noted.gatewayPollTurn (hnoted : world.Noted)
    (hnot : world.controller.watchTask ≠ .triggering)
    (hturn : world.gatewayPollTurn = some next) : next.Noted := by
  unfold Watched.gatewayPollTurn at hturn
  split at hturn
  next =>
    obtain rfl := Option.some.inj hturn
    exact hnoted.congr hnot rfl rfl rfl rfl
  next =>
    obtain rfl := Option.some.inj hturn
    exact hnoted.pollTriggered hnot
  next => cases hturn
  next => cases hturn

theorem Noted.cancelWatch (hnoted : world.Noted) (hcancel : world.cancelWatch = some next) :
    next.Noted := by
  obtain ⟨hawaits, ⟨⟩⟩ := Option.ite_none_left_eq_some.mp hcancel
  have hnot : world.controller.watchTask ≠ .triggering :=
    fun htask => hawaits (.inl (.inr (.inr htask)))
  exact hnoted.congr hnot rfl rfl rfl rfl

theorem Noted.cancelPoll (hnoted : world.Noted)
    (hnot : world.controller.watchTask ≠ .triggering) (hcancel : world.cancelPoll = some next) :
    next.Noted := by
  obtain ⟨-, ⟨⟩⟩ := Option.ite_none_left_eq_some.mp hcancel
  exact hnoted.congr hnot rfl rfl rfl rfl

/-- A watchful action keeps recorded times covered. -/
theorem Noted.act (hnoted : world.Noted) (hwatchful : world.Watchful action)
    (hstep : world.act action = some next) : next.Noted := by
  have hnot (hturn : ¬world.controller.InTurn) : world.controller.watchTask ≠ .triggering :=
    fun htask => hturn (.inr (.inr htask))
  cases action with
  | changeFile mtime =>
      obtain rfl := Option.some.inj hstep
      intro ⟨hfile, hrecorded⟩
      exact absurd hrecorded (hwatchful hfile)
  | watchTurn => exact hnoted.mtimePollTurn hwatchful hstep
  | watchReloaded outcome =>
      obtain ⟨htask, ⟨⟩⟩ := Option.ite_none_right_eq_some.mp hstep
      exact hnoted.congr (by rw [htask]; decide) rfl rfl rfl rfl
  | watchCancelled =>
      obtain ⟨-, hcancel⟩ := Option.ite_none_right_eq_some.mp hstep
      exact hnoted.cancelWatch hcancel
  | pollTurn =>
      obtain ⟨hturn, hpoll⟩ := Option.ite_none_left_eq_some.mp hstep
      exact hnoted.gatewayPollTurn (hnot hturn) hpoll
  | pollReloaded outcome =>
      obtain ⟨⟨hturn, -⟩, ⟨⟩⟩ := Option.ite_none_right_eq_some.mp hstep
      exact hnoted.congr (hnot hturn) rfl rfl rfl rfl
  | pollCancelled =>
      obtain ⟨⟨hturn, -⟩, hcancel⟩ := Option.ite_none_right_eq_some.mp hstep
      exact hnoted.cancelPoll (hnot hturn) hcancel
  | stop =>
      obtain ⟨hturn, ⟨⟩⟩ := Option.ite_none_left_eq_some.mp hstep
      exact hnoted.congr (hnot hturn) rfl rfl rfl rfl

theorem Noted.changeNoticed (hnoted : world.Noted) : world.ChangeNoticed :=
  fun hturn _ hrecorded =>
    (hnoted hrecorded).resolve_right fun htask => hturn (.inr (.inr htask))

/-- An uncovered change whose trigger falls into a poll's reload is lost when the reload
ends: the loop has recorded its time. -/
theorem lost_of_dropped (htask : world.controller.watchTask = .triggering)
    (hpoll : world.controller.pollTask = .reloading)
    (hflight : world.controller.reloadInFlight) (hrecorded : world.Recorded)
    (hnot : ¬world.Covered) (outcome : ReloadOutcome) :
    ∃ dropped lost, world.act .watchTurn = some dropped ∧
      dropped.act (.pollReloaded outcome) = some lost ∧ ¬lost.ChangeNoticed := by
  let dropped : Watched := { world with controller := world.controller.watchAgain }
  let lost : Watched := { dropped with
    controller := (dropped.controller.finishReload outcome).pollAgain }
  have hturn : world.act .watchTurn = some dropped := by
    have hnone : world.triggerReload world.controller.watchOptions = none :=
      triggerReload_eq_none.mpr hflight
    simp only [act, Watched.mtimePollTurn, htask, Watched.watchTriggered, hnone]
    rfl
  have hasleep : ¬dropped.controller.InTurn := by
    have hphase : dropped.controller.watchTask = .done ∨
        dropped.controller.watchTask = .sleeping := by
      by_cases hstop : world.controller.stopEvent
      · exact .inl (if_pos hstop)
      · exact .inr (if_neg hstop)
    rcases hphase with hphase | hphase <;>
      simp [PaybondPolicyReloadController.InTurn, hphase]
  refine ⟨dropped, lost, hturn, if_pos ⟨hasleep, hpoll⟩, fun hnoticed => ?_⟩
  exact hnot (hnoticed hasleep rfl hrecorded)

end Watched

/-! ## Runs of the watcher -/

section Runs

variable {config : PaybondPolicyReloadBindConfig} {resolvedPath : String}
variable {controller : PaybondPolicyReloadController} {file : Option ℚ}
variable {actions : List WatcherAction} {world : Watched}

theorem lastMtime_startController
    (hstart : startController config resolvedPath = some controller) :
    controller.lastMtime = none := by
  obtain ⟨-, ⟨⟩⟩ := Option.ite_none_left_eq_some.mp hstart
  rfl

/-- The loops of a started controller pass the options of their triggers. -/
theorem options_startController
    (hstart : startController config resolvedPath = some controller) :
    controller.watchOptions = triggerOptions resolvedPath (config.poll.getD {}) .fileWatch ∧
      controller.pollOptions = triggerOptions resolvedPath (config.poll.getD {}) .gatewayPoll := by
  obtain ⟨-, ⟨⟩⟩ := Option.ite_none_left_eq_some.mp hstart
  refine ⟨rfl, ?_⟩
  rw [PaybondPolicyReloadController.pollOptions, triggerOptions, Bool.or_self]

/-- In a run of watchful actions no change is lost. -/
theorem changeNoticed_of_watchful
    (hstart : startController config resolvedPath = some controller)
    (hrun : RunWith Watched.act Watched.Watchful (.begin controller file) actions world) :
    world.ChangeNoticed := by
  have hnoted : world.Noted :=
    hrun.invariant (.begin controller file (lastMtime_startController hstart)) Watched.Noted.act
  exact hnoted.changeNoticed

end Runs

/-! ## A policy file that is watched and polled -/

def watchAndPoll : PaybondPolicyReloadBindConfig := { watch := true, poll := some {} }

/-- The watch loop reads the first time and the poll loop goes to sleep. -/
def loopsStart : List WatcherAction := [.watchTurn, .watchTurn, .pollTurn]

def notApplied : ReloadOutcome := .returned { applied := false, unchanged := true } ""

/-- An edit is found, and its reload runs to its end. -/
def quietEdit : List WatcherAction :=
  loopsStart ++ [.changeFile (some 200), .watchTurn, .watchTurn, .watchTurn,
    .watchReloaded (.returned { applied := true } "2026-07-01T12:00:00+00:00")]

/-- The poll loop's reload is in flight when the edit is made and found. -/
def racingEdit : List WatcherAction :=
  loopsStart ++ [.pollTurn, .changeFile (some 200), .watchTurn, .watchTurn, .watchTurn,
    .pollReloaded notApplied]

def editedController : PaybondPolicyReloadController :=
  (startController watchAndPoll "/srv/paybond.policy.yaml").get rfl

theorem startController_edited : startController watchAndPoll "/srv/paybond.policy.yaml" =
    some editedController :=
  (Option.some_get _).symm

theorem changeNoticed_quietEdit : ∃ world,
    RunWith Watched.act Watched.Watchful (.begin editedController (some 100)) quietEdit world ∧
      world.Recorded ∧ world.ChangeNoticed := by
  obtain ⟨world, hrun, hrecorded⟩ : ∃ world,
      RunWith Watched.act Watched.Watchful (.begin editedController (some 100)) quietEdit world ∧
        world.Recorded := exists_runWith_of_play (by decide +kernel)
  exact ⟨world, hrun, hrecorded, changeNoticed_of_watchful startController_edited hrun⟩

/-- The trigger is dropped, and the loop has recorded a time that no reload has seen. -/
theorem dropped_trigger_loses_change :
    ¬∀ (config : PaybondPolicyReloadBindConfig) (resolvedPath : String)
        (controller : PaybondPolicyReloadController) (file : Option ℚ)
        (actions : List WatcherAction) (world : Watched),
      startController config resolvedPath = some controller →
        Run Watched.act (.begin controller file) actions world → world.ChangeNoticed := by
  intro hclaim
  obtain ⟨world, hrun, hlost⟩ : ∃ world,
      Run Watched.act (.begin editedController (some 100)) racingEdit world ∧
        ¬world.ChangeNoticed := exists_runWith_of_play (by decide +kernel)
  exact hlost (hclaim _ _ _ _ _ _ startController_edited hrun)

end PaybondKit.Policy
