import CamelK.ServedPasses

/-!
# The protocol of a kit and its build

Seen from one kit, the controller runs a small protocol over two phases: the
kit's, and that of the build named after it, or its absence.  An unset kit is
submitted, or is ready at once when it names an image; a submitted kit replaces
a build that is absent or ended by a new one, with no phase yet; a submitted
kit whose build runs moves to `BuildRunning`; a running kit ends `Ready` or
`Error` with its build; and the build executor moves a held build to any phase.
This file states that protocol and shows that the code refines it: each step
around a kit is one step of the protocol or changes nothing the protocol sees,
and so is each step of the whole controller.  What the protocol keeps then
holds of the code: a kit past its submission never loses its build.
-/

namespace CamelK

open Resource Prog

/-- What the protocol of the kit under `name` sees of a store: the phase of the
kit and the phase of the build under that name, each absent with its object. -/
def Store.kitView (store : Store) (name : NamespacedName) : Option String × Option String :=
  ((store.kits.get name).map (·.status.phase), (store.builds.get name).map (·.status.phase))

/-- A build the build action replaces: none, or one that ended. -/
def Ended : Option String → Prop
  | none => True
  | some phase =>
      phase = buildPhaseError ∨ phase = buildPhaseInterrupted ∨ phase = buildPhaseSucceeded

/-- The steps of the protocol of a kit and its build. -/
inductive KitProtocol : Option String × Option String → Option String × Option String → Prop
  | start {phase : String} {build : Option String} :
      KitEdge integrationKitPhaseNone phase →
        KitProtocol (some integrationKitPhaseNone, build) (some phase, build)
  | submit {build after : Option String} : Ended build → after = none ∨ after = some "" →
      KitProtocol (some integrationKitPhaseBuildSubmitted, build)
        (some integrationKitPhaseBuildSubmitted, after)
  | run : KitProtocol (some integrationKitPhaseBuildSubmitted, some buildPhaseRunning)
      (some integrationKitPhaseBuildRunning, some buildPhaseRunning)
  | succeed : KitProtocol (some integrationKitPhaseBuildRunning, some buildPhaseSucceeded)
      (some integrationKitPhaseReady, some buildPhaseSucceeded)
  | fail {phase : String} : phase = buildPhaseError ∨ phase = buildPhaseInterrupted →
      KitProtocol (some integrationKitPhaseBuildRunning, some phase)
        (some integrationKitPhaseError, some phase)
  | execute {kit : Option String} {phase phase' : String} :
      KitProtocol (kit, some phase) (kit, some phase')

/-! ## Each step of the code, in the protocol -/

section Steps

variable {name : NamespacedName} {store next : Store}

theorem Ended.of_resubmits {build : Option Build}
    (resubmits : ∀ held, build = some held → buildAction.Resubmits (.ok held)) :
    Ended (build.map (·.status.phase)) := by
  cases build with
  | none => trivial
  | some held => exact resubmits held rfl

/-- The view of a store holding `kit` under `name`. -/
theorem Store.kitView_of_stored {kit : IntegrationKit} (stored : store.kits.get name = some kit) :
    store.kitView name = (some kit.status.phase, (store.builds.get name).map (·.status.phase)) := by
  rw [Store.kitView, stored]
  rfl

/-- The view after a step that keeps the kit and writes the build under `name`. -/
theorem Store.kitView_of_build {kit : IntegrationKit} {after : Option Build}
    (stored : store.kits.get name = some kit) (kits : next.kits.get name = store.kits.get name)
    (builds : next.builds.get name = after) :
    next.kitView name = (some kit.status.phase, after.map (·.status.phase)) := by
  rw [Store.kitView, kits, builds, stored]
  rfl

/-- The view after a step that writes the kit under `name` and keeps its build. -/
theorem Store.kitView_of_kit {kit : IntegrationKit}
    (kits : next.kits.get name = some kit) (builds : next.builds.get name = store.builds.get name) :
    next.kitView name = (some kit.status.phase, (store.builds.get name).map (·.status.phase)) := by
  rw [Store.kitView, kits, builds]
  rfl

/-- The build executor moves the build to the phase it writes. -/
theorem Store.writeBuildStatus_protocol {status : BuildStatus}
    (written : store.writeBuildStatus name status = some next) :
    KitProtocol (store.kitView name) (next.kitView name) := by
  obtain ⟨held, found, rfl⟩ := Option.map_eq_some'.mp written
  have named : held.metadata.namespacedName = name := Table.key_of_get found
  have built : (store.setBuild { held with status := status }).builds.get name =
      some (withResourceVersion { held with status := status } (store.revision + 1)) := by
    simp [Store.setBuild, Table.get_set_eq, found, named]
  rw [Store.kitView, Store.kitView, built, found]
  exact .execute

/-- A pass is a step of the protocol, or changes nothing the protocol sees. -/
theorem reconcile_protocol {events : List Event} {result : Except Error Unit}
    (exec : Exec (reconcile name) store events result next) :
    next.kitView name = store.kitView name ∨ KitProtocol (store.kitView name) (next.kitView name) := by
  rcases reconcile_exec_cases exec with ⟨rfl, -⟩ | ⟨kit, rest, stored, rfl, rfl, handler⟩
  · exact .inl rfl
  rw [Store.kitView_of_stored stored]
  rcases handler with ⟨unset, handling⟩ | ⟨submitted, handling⟩ | ⟨running, handling⟩
  · rcases initializeAction.handle_exec_cases stored handling with ⟨rfl, -⟩ |
      ⟨env, spec, version, -, -, builds, -, ⟨-, -, kits⟩ | ⟨-, dgst, written, -, -, kits⟩⟩
    · exact .inl (Store.kitView_of_stored stored)
    · exact .inl ((Store.kitView_of_kit kits (builds _)).trans rfl)
    · rw [Store.kitView_of_kit kits (builds _), unset]
      refine .inr (.start ?_)
      by_cases image : spec.image = "" <;>
        simp [initializeAction.initialTarget_phase, image, KitEdge.submit, KitEdge.prebuilt]
  · rcases buildAction.handleBuildSubmitted_exec_cases stored handling with ⟨rfl, -⟩ |
      ⟨_, _, _, _, _, _, -, ended, -, -, -, -, -, built, kits, -⟩ |
      ⟨_, _, _, _, _, _, -, ended, -, -, -, -, built, kits, -⟩ |
      ⟨build, _, found, started, -, -, kits, builds, -⟩
    · exact .inl (Store.kitView_of_stored stored)
    · rw [Store.kitView_of_build stored (kits _) built, submitted]
      exact .inr (.submit (.of_resubmits ended) (.inl rfl))
    · rw [Store.kitView_of_build stored (kits _) built, submitted]
      exact .inr (.submit (.of_resubmits ended) (.inr rfl))
    · rw [Store.kitView_of_kit kits (builds _), found, submitted]
      exact .inr (by simpa [started] using KitProtocol.run)
  · rcases buildAction.handleBuildRunning_exec_cases stored handling with ⟨rfl, -⟩ |
      ⟨build, _, _, found, succeeded, -, -, -, kits, builds, -⟩ |
      ⟨build, _, found, failed, -, -, -, kits, builds, -⟩
    · exact .inl (Store.kitView_of_stored stored)
    · rw [Store.kitView_of_kit kits (builds _), found, running]
      exact .inr (by simpa [succeeded, buildAction.readyTarget] using KitProtocol.succeed)
    · rw [Store.kitView_of_kit kits (builds _), found, running]
      exact .inr (by simpa [buildAction.errorTarget] using KitProtocol.fail failed)

end Steps

/-! ## Runs -/

section Runs

variable {name : NamespacedName}

/-- Seen from its kit, each step around it is a step of the protocol or
changes nothing the protocol sees. -/
theorem Transition.protocol {store next : Store} {label : Label}
    (transition : Transition name store label next) :
    next.kitView name = store.kitView name ∨ KitProtocol (store.kitView name) (next.kitView name) := by
  cases transition with
  | pass exec => exact reconcile_protocol exec
  | executor _ written => exact .inr (Store.writeBuildStatus_protocol written)

theorem Store.kitView_congr {store next : Store} (kits : next.kits.get name = store.kits.get name)
    (builds : next.builds.get name = store.builds.get name) :
    next.kitView name = store.kitView name := by
  rw [Store.kitView, Store.kitView, kits, builds]

/-- Every run of the controller, seen from one kit, is a run of its protocol. -/
theorem ControllerStep.kitView_run {store final : Store}
    (run : Relation.ReflTransGen ControllerStep store final) (name : NamespacedName) :
    Relation.ReflTransGen KitProtocol (store.kitView name) (final.kitView name) :=
  ControllerStep.preserves name
    (fun next => Relation.ReflTransGen KitProtocol (store.kitView name) (next.kitView name))
    (fun _ _ kits builds held => by
      dsimp only at held ⊢
      rwa [Store.kitView_congr kits builds])
    (fun _ _ _ transition held => by
      dsimp only at held ⊢
      rcases transition.protocol with same | step
      · rwa [same]
      · exact held.tail step)
    run .refl

/-- The code refines the protocol: each step around a kit is a step of the
protocol or a stutter, and every run of the whole controller, passes on any
kits and executor writes to any builds in any order, is seen from each kit as
a run of its protocol. -/
theorem controller_refines_kit_protocol (name : NamespacedName) :
    (∀ store label next, Transition name store label next →
      next.kitView name = store.kitView name ∨
        KitProtocol (store.kitView name) (next.kitView name)) ∧
      ∀ store final, Relation.ReflTransGen ControllerStep store final →
        Relation.ReflTransGen KitProtocol (store.kitView name) (final.kitView name) :=
  ⟨fun _ _ _ transition => transition.protocol, fun _ _ run => ControllerStep.kitView_run run name⟩

theorem builtPass_follows_kit_protocol :
    Transition builtKit.metadata.namespacedName builtStore (.pass builtPass (.ok ())) builtPassStore ∧
      builtStore.kitView builtKit.metadata.namespacedName =
        (some integrationKitPhaseBuildRunning, some buildPhaseSucceeded) ∧
      builtPassStore.kitView builtKit.metadata.namespacedName =
        (some integrationKitPhaseReady, some buildPhaseSucceeded) ∧
      KitProtocol (builtStore.kitView builtKit.metadata.namespacedName)
        (builtPassStore.kitView builtKit.metadata.namespacedName) ∧
      Relation.ReflTransGen KitProtocol (builtStore.kitView builtKit.metadata.namespacedName)
        (builtPassStore.kitView builtKit.metadata.namespacedName) :=
  ⟨.pass builtPass_exec, by decide, by decide,
    ((controller_refines_kit_protocol _).1 _ _ _ (.pass builtPass_exec)).resolve_left (by decide),
    (controller_refines_kit_protocol _).2 _ _ (.single ⟨_, _, .pass builtPass_exec⟩)⟩

end Runs

/-! ## What the protocol keeps -/

/-- A kit past its submission, running, ready or failed, with its build held. -/
def Settled (view : Option String × Option String) : Prop :=
  (view.1 = some integrationKitPhaseBuildRunning ∨ view.1 = some integrationKitPhaseReady ∨
    view.1 = some integrationKitPhaseError) ∧ view.2.isSome

instance : DecidablePred Settled :=
  fun _ => inferInstanceAs (Decidable (_ ∧ _))

/-- The protocol replaces builds only of submitted kits, and no kit returns to
being submitted: a settled kit stays settled. -/
theorem KitProtocol.settled {view view' : Option String × Option String}
    (step : KitProtocol view view') (settled : Settled view) : Settled view' := by
  obtain ⟨phase, held⟩ := settled
  cases step with
  | start | submit | run => rcases phase with named | named | named <;> exact absurd (Option.some.inj named) (by decide)
  | succeed => exact ⟨.inr (.inl rfl), rfl⟩
  | fail => exact ⟨.inr (.inr rfl), rfl⟩
  | execute => exact ⟨phase, rfl⟩

theorem KitProtocol.run_settled {view view' : Option String × Option String}
    (run : Relation.ReflTransGen KitProtocol view view') (settled : Settled view) :
    Settled view' := by
  induction run with
  | refl => exact settled
  | tail _ step held => exact step.settled held

/-- Along every run of the controller, a kit that is running, ready or failed
and holds its build keeps holding a build, and stays past its submission: no
pass and no executor write removes it. -/
theorem settled_build_is_never_removed {store final : Store}
    (run : Relation.ReflTransGen ControllerStep store final) (name : NamespacedName)
    (settled : Settled (store.kitView name)) : Settled (final.kitView name) :=
  KitProtocol.run_settled (ControllerStep.kitView_run run name) settled

theorem builtPass_keeps_settled_build :
    Relation.ReflTransGen ControllerStep builtStore builtPassStore ∧
      Settled (builtStore.kitView builtKit.metadata.namespacedName) ∧
      Settled (builtPassStore.kitView builtKit.metadata.namespacedName) :=
  have run : Relation.ReflTransGen ControllerStep builtStore builtPassStore :=
    .single ⟨_, _, .pass builtPass_exec⟩
  have settled : Settled (builtStore.kitView builtKit.metadata.namespacedName) := by decide
  ⟨run, settled, settled_build_is_never_removed run _ settled⟩

end CamelK
