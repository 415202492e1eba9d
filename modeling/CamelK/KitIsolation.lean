import CamelK.Liveness

/-!
# Many kits

The controller reconciles every kit of the cluster, one pass at a time, while
the build executor writes the status of any build.  A pass writes only the kit
it reconciles and the build named after it: each of its write calls names the
kit it read, or the build it owns.  So each kit keeps, along every run of the
whole controller, what it keeps along its own passes.
-/

namespace CamelK

open Resource Prog

/-- The name of the kit or the build a call writes, if it writes one. -/
def Call.written : Call → Option NamespacedName
  | .updateKit kit | .updateKitStatus kit => some (key kit)
  | .deleteBuild build | .createBuild build => some (key build)
  | _ => none

/-- Every kit or build the events write is the one under `name`. -/
def WritesOnly (name : NamespacedName) (events : List Event) : Prop :=
  ∀ event ∈ events, ∀ written, event.1.written = some written → written = name

@[simp]
theorem writesOnly_nil (name : NamespacedName) : WritesOnly name [] :=
  fun _ mem => nomatch mem

theorem writesOnly_of_silent {name : NamespacedName} {events : List Event}
    (silent : ∀ event ∈ events, event.1.writesKit = false ∧ event.1.writesBuild = false) :
    WritesOnly name events := by
  intro event mem written same
  obtain ⟨noKit, noBuild⟩ := silent event mem
  obtain ⟨call, answer⟩ := event
  cases call <;> simp [Call.written, Call.writesKit, Call.writesBuild] at same noKit noBuild

theorem writesOnly_cons {name : NamespacedName} {event : Event} {events : List Event} :
    WritesOnly name (event :: events) ↔
      (∀ written, event.1.written = some written → written = name) ∧ WritesOnly name events := by
  simp [WritesOnly]

section Frame

variable {name other : NamespacedName} {event : Event}

/-- An event that writes no kit under `other` leaves it as it was. -/
theorem Event.kitWrite_of_ne (apart : event.1.written ≠ some other) : event.kitWrite other = id := by
  obtain ⟨call, answer⟩ := event
  cases call <;> cases answer <;> first | rfl |
    (simp only [Event.kitWrite]; rw [if_neg fun same => apart (congrArg some same)])

@[inherit_doc Event.kitWrite_of_ne]
theorem Event.buildWrite_of_ne (apart : event.1.written ≠ some other) :
    event.buildWrite other = id := by
  obtain ⟨call, answer⟩ := event
  cases call <;> cases answer <;> first | rfl |
    (simp only [Event.buildWrite]; rw [if_neg fun same => apart (congrArg some same)])

/-- Events that write only under `name` leave the kit and the build under any
other name as they were. -/
theorem WritesOnly.replay_apart {events : List Event} (only : WritesOnly name events)
    (apart : other ≠ name) (kit : Option IntegrationKit) (build : Option Build) :
    replayKit other events kit = kit ∧ replayBuild other events build = build := by
  induction events generalizing kit build with
  | nil => exact ⟨rfl, rfl⟩
  | cons event events ih =>
      obtain ⟨own, only⟩ := writesOnly_cons.mp only
      have written : event.1.written ≠ some other := fun same => apart (own _ same)
      rw [replayKit_cons, replayBuild_cons, Event.kitWrite_of_ne written,
        Event.buildWrite_of_ne written]
      exact ih only kit build

end Frame

section Handlers

variable {kit : IntegrationKit} {events : List Event}

theorem initializeAction.handle_writesOnly {result : Except Error Unit}
    (path : Path (initializeAction.handle kit) events result) : WritesOnly (key kit) events := by
  rcases initializeAction.handle_path_cases path with ⟨_, rfl, -⟩ | ⟨_, rfl, -⟩ |
    ⟨_, _, _, rfl, -⟩ | ⟨_, _, _, _, rfl, -⟩ | ⟨_, _, _, _, _, rfl, -⟩ <;>
    simp [writesOnly_cons, Call.written]

theorem buildAction.handleBuildSubmitted_writesOnly {result : Except Error Unit}
    (path : Path (buildAction.handleBuildSubmitted kit) events result) :
    WritesOnly (key kit) events := by
  obtain ⟨got, rest, rfl, cases⟩ := buildAction.handleBuildSubmitted_path_cases path
  refine writesOnly_cons.mpr ⟨nofun, ?_⟩
  rcases cases with ⟨_, -, -, rfl, -⟩ | ⟨-, _, recreating, -⟩ | ⟨_, -, -, marking⟩
  · exact writesOnly_nil _
  · rcases buildAction.recreateBuild_path_cases recreating with ⟨_, rfl, -⟩ | ⟨_, _, -, rfl, -⟩ |
      ⟨_, _, _, _, _, -, -, rfl, -⟩ | ⟨_, _, _, _, _, -, -, rfl, -⟩ | ⟨_, _, _, _, _, -, -, rfl, -⟩ <;>
      simp [writesOnly_cons, Call.written, buildAction.ownedBuild_namespacedName]
  · rcases buildAction.markBuildRunning_path_cases marking with ⟨-, _, rfl, -⟩ | ⟨-, rfl, -⟩ <;>
      simp [writesOnly_cons, Call.written]

theorem buildAction.handleBuildRunning_writesOnly {result : Except Error Unit}
    (path : Path (buildAction.handleBuildRunning kit) events result) :
    WritesOnly (key kit) events := by
  obtain ⟨got, rest, rfl, cases⟩ := buildAction.handleBuildRunning_path_cases path
  refine writesOnly_cons.mpr ⟨nofun, ?_⟩
  rcases cases with ⟨_, -, rfl, -⟩ | ⟨build, -, -, succeeding⟩ | ⟨build, -, -, failing⟩ |
    ⟨_, -, -, -, -, rfl, -⟩
  · exact writesOnly_nil _
  · rcases buildAction.buildSucceeded_path_cases succeeding with ⟨-, rfl, -⟩ |
      ⟨-, _, rfl, -⟩ | ⟨-, _, inform, rfl, informing⟩
    · exact writesOnly_nil _
    · simp [writesOnly_cons, Call.written, buildAction.readyTarget_metadata]
    · exact writesOnly_cons.mpr ⟨by simp [Call.written, buildAction.readyTarget_metadata],
        writesOnly_of_silent (buildAction.informIntegrations_path_writes informing)⟩
  · rcases buildAction.buildFailed_path_cases failing with ⟨-, rfl, -⟩ | ⟨-, _, rfl, -⟩ <;>
      simp [writesOnly_cons, Call.written, buildAction.errorTarget_metadata]
  · exact writesOnly_nil _

end Handlers

/-- A pass writes only the kit it reconciles and the build named after it. -/
theorem reconcile_writesOnly {name : NamespacedName} {store next : Store} {events : List Event}
    {result : Except Error Unit} (exec : Exec (reconcile name) store events result next) :
    WritesOnly name events := by
  obtain ⟨got, rest, rfl, cases⟩ := reconcile_path_cases exec.1
  refine writesOnly_cons.mpr ⟨nofun, ?_⟩
  rcases cases with ⟨_, -, rfl, -⟩ | ⟨kit, rfl, -, handling⟩ | ⟨kit, rfl, -, handling⟩ |
    ⟨_, -, -, -, -, rfl, -⟩
  · exact writesOnly_nil _
  · rw [← Table.key_of_get exec.2.getKit_head.1]
    exact initializeAction.handle_writesOnly handling
  · rw [← Table.key_of_get exec.2.getKit_head.1]
    rcases buildAction.handle_path_cases handling with ⟨-, submitting⟩ | ⟨-, running⟩ |
      ⟨-, -, rfl, -⟩
    · exact buildAction.handleBuildSubmitted_writesOnly submitting
    · exact buildAction.handleBuildRunning_writesOnly running
    · exact writesOnly_nil _
  · exact writesOnly_nil _

theorem Store.writeBuildStatus_apart {store next : Store} {name other : NamespacedName}
    {status : BuildStatus} (written : store.writeBuildStatus name status = some next)
    (apart : other ≠ name) : next.builds.get other = store.builds.get other := by
  obtain ⟨held, found, rfl⟩ := Option.map_eq_some'.mp written
  have named : held.metadata.namespacedName = name := Table.key_of_get found
  exact Table.get_set_of_ne _ (by simpa [named] using apart)

/-- A step around one kit leaves every other kit, and its build, as they were:
a pass writes under the name it reconciles, and the executor writes the status
of the one build it runs. -/
theorem Transition.apart {name other : NamespacedName} {store next : Store} {label : Label}
    (transition : Transition name store label next) (apart : other ≠ name) :
    next.kits.get other = store.kits.get other ∧ next.builds.get other = store.builds.get other := by
  cases transition with
  | pass exec =>
      rw [exec.2.kits_get, exec.2.builds_get]
      exact (reconcile_writesOnly exec).replay_apart apart _ _
  | executor _ written =>
      exact ⟨by rw [Store.writeBuildStatus_kits written], Store.writeBuildStatus_apart written apart⟩

/-- A pass writes only the kit it reconciles and the build named after it, and
a step around one kit leaves every other kit and build as they were. -/
theorem pass_writes_only_its_kit (name : NamespacedName) :
    (∀ store events result next, Exec (reconcile name) store events result next →
      WritesOnly name events) ∧
      ∀ other, other ≠ name → ∀ store label next, Transition name store label next →
        next.kits.get other = store.kits.get other ∧
          next.builds.get other = store.builds.get other :=
  ⟨fun _ _ _ _ exec => reconcile_writesOnly exec,
    fun _ apart _ _ _ transition => transition.apart apart⟩

/-- Another kit of the namespace, running, and its build, which runs. -/
def otherKit : IntegrationKit :=
  { metadata := { «namespace» := "default", name := "other" }
    status := { phase := integrationKitPhaseBuildRunning } }

@[inherit_doc otherKit]
def otherBuild : Build :=
  { metadata :=
      { «namespace» := "default", name := "other",
        ownerReferences := [⟨"IntegrationKit", "other", true⟩] }
    status := { phase := buildPhaseRunning } }

/-- `builtStore` with the other kit and its build. -/
def twoKitStore : Store :=
  (builtStore.insertKit otherKit).insertBuild otherBuild

/-- The pass on the kit of `builtStore` in it, when nothing fails: it writes the
kit `Ready` and sets the waiting integration to `ResolvingKit`. -/
def twoKitPass : List Event :=
  [⟨.getKit builtKit.metadata.namespacedName, .ok (withResourceVersion builtKit 1)⟩,
    ⟨.getBuild builtKit.metadata.namespacedName, .ok (withResourceVersion builtBuild 2)⟩,
    ⟨.updateKitStatus (buildAction.readyTarget (withResourceVersion builtKit 1)
      (withResourceVersion builtBuild 2)), .ok 6⟩,
    ⟨.listIntegrations "default", .ok [withResourceVersion waitingIntegration 3]⟩,
    ⟨.updateIntegrationStatus { withResourceVersion waitingIntegration 3 with
      status.phase := integrationPhaseResolvingKit }, .ok 7⟩]

/-- The store after it. -/
def twoKitPassStore : Store :=
  (twoKitStore.setKit (buildAction.readyTarget (withResourceVersion builtKit 1)
    (withResourceVersion builtBuild 2))).setIntegration { withResourceVersion waitingIntegration 3 with
      status.phase := integrationPhaseResolvingKit }

theorem twoKitPass_exec :
    Exec (reconcile builtKit.metadata.namespacedName) twoKitStore twoKitPass (.ok ())
      twoKitPassStore :=
  ⟨.call (.call (.call (.call (.call (.done _))))),
    .cons (.serve rfl) (.cons (.serve rfl) (.cons (.serve rfl) (.cons (.serve rfl)
      (.cons (.serve rfl) (.nil _)))))⟩

theorem twoKitPass_leaves_other_kit :
    Exec (reconcile builtKit.metadata.namespacedName) twoKitStore twoKitPass (.ok ())
        twoKitPassStore ∧
      WritesOnly builtKit.metadata.namespacedName twoKitPass ∧
      otherKit.metadata.namespacedName ≠ builtKit.metadata.namespacedName ∧
      twoKitStore.kits.get otherKit.metadata.namespacedName = some (withResourceVersion otherKit 4) ∧
      twoKitStore.builds.get otherKit.metadata.namespacedName =
        some (withResourceVersion otherBuild 5) ∧
      twoKitPassStore.kits.get otherKit.metadata.namespacedName =
        twoKitStore.kits.get otherKit.metadata.namespacedName ∧
      twoKitPassStore.builds.get otherKit.metadata.namespacedName =
        twoKitStore.builds.get otherKit.metadata.namespacedName :=
  ⟨twoKitPass_exec, (pass_writes_only_its_kit _).1 _ _ _ _ twoKitPass_exec, by decide, rfl, rfl,
    (pass_writes_only_its_kit _).2 _ (by decide) _ _ _ (.pass twoKitPass_exec)⟩

/-! ## Runs of the whole controller -/

/-- One step of the whole controller: a pass on any kit, or the build executor
writing the status of any build. -/
def ControllerStep (store next : Store) : Prop :=
  ∃ name label, Transition name store label next

/-- Seen from one kit, a step of the controller is a step around that kit, or
leaves the kit and its build as they were. -/
theorem ControllerStep.around {store next : Store} (step : ControllerStep store next)
    (name : NamespacedName) :
    (∃ label, Transition name store label next) ∨
      (next.kits.get name = store.kits.get name ∧ next.builds.get name = store.builds.get name) := by
  obtain ⟨other, label, transition⟩ := step
  by_cases same : other = name
  · subst same
    exact .inl ⟨label, transition⟩
  · exact .inr (transition.apart (Ne.symm same))

/-- What depends only on the kit under `name` and its build, and holds along the
steps around that kit, holds along every run of the controller. -/
theorem ControllerStep.preserves (name : NamespacedName) (holds : Store → Prop)
    (untouched : ∀ store next, next.kits.get name = store.kits.get name →
      next.builds.get name = store.builds.get name → holds store → holds next)
    (around : ∀ store label next, Transition name store label next → holds store → holds next)
    {store final : Store} (run : Relation.ReflTransGen ControllerStep store final)
    (initial : holds store) : holds final := by
  induction run with
  | refl => exact initial
  | tail _ step ih =>
      rcases step.around name with ⟨label, transition⟩ | ⟨kits, builds⟩
      · exact around _ _ _ transition ih
      · exact untouched _ _ kits builds ih

theorem Store.writeBuildStatus_runningHasBuild {store next : Store} {name : NamespacedName}
    {status : BuildStatus} (written : store.writeBuildStatus name status = some next)
    (invariant : store.RunningHasBuild name) : next.RunningHasBuild name := by
  intro kit stored running
  rw [Store.writeBuildStatus_kits written] at stored
  rw [Store.writeBuildStatus_builds written]
  exact invariant kit stored running

/-- A step around a kit whose artifacts carry no location keeps them so. -/
theorem Transition.keeps_unlocated {name : NamespacedName} {store next : Store} {label : Label}
    (transition : Transition name store label next)
    (unlocated : ∀ kit, store.kits.get name = some kit → ArtifactsUnlocated kit.status) :
    ∀ kit, next.kits.get name = some kit → ArtifactsUnlocated kit.status := by
  intro kit' stored'
  cases transition with
  | pass exec =>
      obtain ⟨kit, stored, same | ⟨target, version, written, same⟩⟩ :=
        reconcile_kit_status exec stored'
      · exact same ▸ unlocated kit stored
      · exact same ▸ reconcile_persists_unlocated exec unlocated written
  | executor _ written => exact unlocated kit' (by rwa [Store.writeBuildStatus_kits written] at stored')

/-- Every kit keeps, along every run of the whole controller, what it keeps
along its own passes: its phase walks the phase graph, a running kit has its
build, the build under its name has the kit as its controller, and its
artifacts carry no location. -/
theorem controller_keeps_every_kit {store final : Store}
    (run : Relation.ReflTransGen ControllerStep store final) (name : NamespacedName) :
    (∀ kit, store.kits.get name = some kit → ∃ kit', final.kits.get name = some kit' ∧
      Relation.ReflTransGen KitEdge kit.status.phase kit'.status.phase) ∧
      (store.RunningHasBuild name → final.RunningHasBuild name) ∧
      (store.BuildControlled name → final.BuildControlled name) ∧
      ((∀ kit, store.kits.get name = some kit → ArtifactsUnlocated kit.status) →
        ∀ kit, final.kits.get name = some kit → ArtifactsUnlocated kit.status) := by
  refine ⟨fun kit stored => ?_, fun initial => ?_, fun initial => ?_, fun initial => ?_⟩
  · refine ControllerStep.preserves name (fun final => ∃ kit', final.kits.get name = some kit' ∧
      Relation.ReflTransGen KitEdge kit.status.phase kit'.status.phase)
      (fun _ _ kits _ ⟨kit', stored', walked⟩ => ?_)
      (fun _ _ _ transition ⟨kit', stored', walked⟩ => ?_) run ⟨kit, stored, .refl⟩
    · exact ⟨kit', kits.trans stored', walked⟩
    · obtain ⟨kit'', stored'', moved⟩ := Run.kit_phase_path (.cons transition (.nil _)) stored'
      exact ⟨kit'', stored'', walked.trans moved⟩
  · refine ControllerStep.preserves name (Store.RunningHasBuild · name)
      (fun _ _ kits builds held kit stored running => ?_)
      (fun _ _ _ transition held => ?_) run initial
    · rw [builds]
      exact held kit (kits ▸ stored) running
    · cases transition with
      | pass exec => exact reconcile_keeps_running_build exec held
      | executor _ written => exact Store.writeBuildStatus_runningHasBuild written held
  · refine ControllerStep.preserves name (Store.BuildControlled · name)
      (fun _ _ _ builds held build stored => ?_)
      (fun _ _ _ transition held => Run.build_controlled (.cons transition (.nil _)) held) run
      initial
    exact held build (builds ▸ stored)
  · exact ControllerStep.preserves name
      (fun final => ∀ kit, final.kits.get name = some kit → ArtifactsUnlocated kit.status)
      (fun _ _ kits _ held kit stored => held kit (kits ▸ stored))
      (fun _ _ _ transition held => transition.keeps_unlocated held) run initial

/-- A run of the controller from `twoKitStore`: the pass on the kit of
`builtStore`, then the build executor ending the build of the other kit. -/
theorem twoKitRun_keeps_every_kit :
    ∃ final, Relation.ReflTransGen ControllerStep twoKitStore final ∧
      twoKitStore.kits.get builtKit.metadata.namespacedName =
        some (withResourceVersion builtKit 1) ∧
      twoKitStore.RunningHasBuild builtKit.metadata.namespacedName ∧
      twoKitStore.BuildControlled builtKit.metadata.namespacedName ∧
      (∀ kit, twoKitStore.kits.get builtKit.metadata.namespacedName = some kit →
        ArtifactsUnlocated kit.status) ∧
      (∃ kit', final.kits.get builtKit.metadata.namespacedName = some kit' ∧
        Relation.ReflTransGen KitEdge (withResourceVersion builtKit 1).status.phase
          kit'.status.phase) ∧
      final.RunningHasBuild builtKit.metadata.namespacedName ∧
      final.BuildControlled builtKit.metadata.namespacedName ∧
      ∀ kit, final.kits.get builtKit.metadata.namespacedName = some kit →
        ArtifactsUnlocated kit.status := by
  have run : Relation.ReflTransGen ControllerStep twoKitStore _ :=
    .tail (.single ⟨_, _, .pass twoKitPass_exec⟩)
      ⟨otherKit.metadata.namespacedName, _, .executor { phase := buildPhaseSucceeded } rfl⟩
  have stored : twoKitStore.kits.get builtKit.metadata.namespacedName =
      some (withResourceVersion builtKit 1) := rfl
  have running : twoKitStore.RunningHasBuild builtKit.metadata.namespacedName :=
    fun _ _ _ => rfl
  have controlled : twoKitStore.BuildControlled builtKit.metadata.namespacedName := by
    intro build held
    cases held
    rfl
  have unlocated : ∀ kit, twoKitStore.kits.get builtKit.metadata.namespacedName = some kit →
      ArtifactsUnlocated kit.status := by
    intro kit held
    cases stored.symm.trans held
    decide
  obtain ⟨walked, keptRunning, keptControlled, keptUnlocated⟩ :=
    controller_keeps_every_kit run builtKit.metadata.namespacedName
  exact ⟨_, run, stored, running, controlled, unlocated, walked _ stored, keptRunning running,
    keptControlled controlled, keptUnlocated unlocated⟩

end CamelK
