import CamelK.BuildAction

/-!
# Reconcile passes and runs

The controller's watch loop reconciles a kit once per observed change: it reads
the kit and runs the first action of the pool whose predicate holds for the
kit's phase.  Around one kit, what else happens is the build executor writing
the status of the kit's build.  A run is a sequence of such steps.
-/

namespace CamelK

open Prog

/-- The actions of the integration kit controller, in the order they are tried. -/
def integrationKitActionPool : List Action :=
  [newInitializeAction, newBuildAction]

/-- Modelled from the spec: the controller's `Reconcile` is not under `src/`.
The spec's dispatcher reads the kit and runs the handler of the first action
whose predicate holds for it; none holding is a pass that does nothing, and a
kit that is gone is no error. -/
def reconcile (name : NamespacedName) : Prog (Except Error Unit) := do
  match ← Client.getKit name with
  | .error err => pure (if err.isNotFound then .ok () else .error err)
  | .ok kit =>
      match integrationKitActionPool.find? fun action => action.canHandle kit with
      | some action => action.handle kit
      | none => pure (.ok ())

theorem reconcile_path_cases {name : NamespacedName} {events : List Event}
    {result : Except Error Unit} (path : Path (reconcile name) events result) :
    ∃ got rest, events = ⟨.getKit name, got⟩ :: rest ∧
      ((∃ err, got = .error err ∧ rest = [] ∧
          result = if err.isNotFound then .ok () else .error err) ∨
        (∃ kit, got = .ok kit ∧ kit.status.phase = integrationKitPhaseNone ∧
          Path (initializeAction.handle kit) rest result) ∨
        (∃ kit, got = .ok kit ∧ (kit.status.phase = integrationKitPhaseBuildSubmitted ∨
          kit.status.phase = integrationKitPhaseBuildRunning) ∧
          Path (buildAction.handle kit) rest result) ∨
        (∃ kit, got = .ok kit ∧ kit.status.phase ≠ integrationKitPhaseNone ∧
          kit.status.phase ≠ integrationKitPhaseBuildSubmitted ∧
          kit.status.phase ≠ integrationKitPhaseBuildRunning ∧ rest = [] ∧ result = .ok ())) := by
  simp only [reconcile, Client.getKit, bind_eq, call_bind, done_bind, path_call] at path
  obtain ⟨got, rest, rfl, path⟩ := path
  refine ⟨got, rest, rfl, ?_⟩
  rcases got with err | kit
  · exact .inl ⟨err, rfl, path_done.mp path⟩
  · simp only [integrationKitActionPool, List.find?, newInitializeAction, newBuildAction] at path
    cases unset : initializeAction.canHandle kit <;>
      cases building : buildAction.canHandle kit <;>
      simp only [unset, building] at path <;>
      simp only [initializeAction.canHandle, buildAction.canHandle, beq_iff_eq, Bool.or_eq_true,
        beq_eq_false_iff_ne, Bool.or_eq_false_iff, ne_eq] at unset building
    · obtain ⟨rfl, rfl⟩ := path_done.mp path
      exact .inr (.inr (.inr ⟨kit, rfl, unset, building.1, building.2, rfl, rfl⟩))
    · exact .inr (.inr (.inl ⟨kit, rfl, building, path⟩))
    · exact .inr (.inl ⟨kit, rfl, unset, path⟩)
    · exact .inr (.inl ⟨kit, rfl, unset, path⟩)

/-! ## Runs around one kit -/

/-- What a step of a run did: a pass, with its calls and its result, or the
executor writing a build status. -/
inductive Label
  | pass (events : List Event) (result : Except Error Unit)
  | executor (status : BuildStatus)

/-- One step around the kit named `name`: a reconcile pass run alone against
the store, or the build executor setting the status of the kit's build to
anything. -/
inductive Transition (name : NamespacedName) : Store → Label → Store → Prop
  | pass {store next : Store} {events : List Event} {result : Except Error Unit} :
      Exec (reconcile name) store events result next →
        Transition name store (.pass events result) next
  | executor {store next : Store} (status : BuildStatus) :
      store.writeBuildStatus name status = some next →
        Transition name store (.executor status) next

/-- A run around the kit named `name`: transitions one after the other. -/
inductive Run (name : NamespacedName) : Store → List Label → Store → Prop
  | nil (store : Store) : Run name store [] store
  | cons {store next final : Store} {label : Label} {labels : List Label} :
      Transition name store label next → Run name next labels final →
        Run name store (label :: labels) final

end CamelK
