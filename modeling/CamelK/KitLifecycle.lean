import CamelK.PassOutcomes
import Mathlib.Logic.Relation

/-!
# The phase graph of a kit

A kit is created with no phase, is submitted for a build or, when it names a
prebuilt image, is ready at once; a submitted kit runs its build, and a running
kit ends ready or in error.  This file states that graph and shows that the
controller follows it: the dispatcher hands a kit to at most one action, a pass
moves the stored phase of the kit along one edge of the graph or leaves it, and
a pass on a kit in any other phase writes nothing, so that along every run the
stored phases walk the graph.
-/

namespace CamelK

open Resource Prog

/-- The edges of the kit phase graph. -/
inductive KitEdge : String → String → Prop
  | submit : KitEdge integrationKitPhaseNone integrationKitPhaseBuildSubmitted
  | prebuilt : KitEdge integrationKitPhaseNone integrationKitPhaseReady
  | run : KitEdge integrationKitPhaseBuildSubmitted integrationKitPhaseBuildRunning
  | succeed : KitEdge integrationKitPhaseBuildRunning integrationKitPhaseReady
  | fail : KitEdge integrationKitPhaseBuildRunning integrationKitPhaseError

theorem kitEdge_iff {before after : String} :
    KitEdge before after ↔
      (before = integrationKitPhaseNone ∧
          (after = integrationKitPhaseBuildSubmitted ∨ after = integrationKitPhaseReady)) ∨
        (before = integrationKitPhaseBuildSubmitted ∧ after = integrationKitPhaseBuildRunning) ∨
        (before = integrationKitPhaseBuildRunning ∧
          (after = integrationKitPhaseReady ∨ after = integrationKitPhaseError)) := by
  constructor
  · rintro (_ | _ | _ | _ | _) <;> simp
  · rintro (⟨rfl, rfl | rfl⟩ | ⟨rfl, rfl⟩ | ⟨rfl, rfl | rfl⟩)
    exacts [.submit, .prebuilt, .run, .succeed, .fail]

instance : DecidableRel KitEdge :=
  fun _ _ => decidable_of_iff _ kitEdge_iff.symm

/-- No phase is handled by both actions of the pool. -/
theorem canHandle_disjoint (kit : IntegrationKit) :
    ¬(initializeAction.canHandle kit = true ∧ buildAction.canHandle kit = true) := by
  rintro ⟨unset, building⟩
  simp only [initializeAction.canHandle, buildAction.canHandle, beq_iff_eq, Bool.or_eq_true]
    at unset building
  rcases building with building | building <;> rw [unset] at building <;>
    exact absurd building (by decide)

/-! ## One pass -/

/-- A pass on a kit the dispatcher hands to no action writes nothing. -/
theorem reconcile_exec_of_unhandled {name : NamespacedName} {store next : Store}
    {events : List Event} {result : Except Error Unit} {kit : IntegrationKit}
    (exec : Exec (reconcile name) store events result next) (stored : store.kits.get name = some kit)
    (notUnset : kit.status.phase ≠ integrationKitPhaseNone)
    (notSubmitted : kit.status.phase ≠ integrationKitPhaseBuildSubmitted)
    (notRunning : kit.status.phase ≠ integrationKitPhaseBuildRunning) :
    next = store ∧ ∀ event ∈ events, event.1.isWrite = false := by
  obtain ⟨path, responses⟩ := exec
  obtain ⟨got, rest, rfl, cases⟩ := reconcile_path_cases path
  obtain ⟨middle, fetched, -⟩ := responses_cons.mp responses
  obtain ⟨-, storedOk, -⟩ := fetched.getKit_answer
  have noRest : rest = [] := by
    rcases cases with ⟨_, -, noRest, -⟩ | ⟨read, rfl, unset, -⟩ | ⟨read, rfl, building, -⟩ |
      ⟨_, -, -, -, -, noRest, -⟩
    · exact noRest
    · cases stored.symm.trans (storedOk read rfl)
      exact absurd unset notUnset
    · cases stored.symm.trans (storedOk read rfl)
      exact absurd building (not_or.mpr ⟨notSubmitted, notRunning⟩)
    · exact noRest
  subst noRest
  exact ⟨(responses.unchanged_of_all_rejected rfl).1, of_decide_eq_true rfl⟩

/-- What one pass does to the kit under `name`: the kit stays, with its phase
kept or moved along one edge, and a kit leaving `""` is ready exactly when its
composed spec names an image. -/
theorem reconcile_kit_step {name : NamespacedName} {store next : Store} {events : List Event}
    {result : Except Error Unit} {kit : IntegrationKit}
    (exec : Exec (reconcile name) store events result next) (stored : store.kits.get name = some kit) :
    ∃ kit', next.kits.get name = some kit' ∧
      (kit'.status.phase = kit.status.phase ∨ KitEdge kit.status.phase kit'.status.phase) ∧
      (kit.status.phase = integrationKitPhaseNone → kit'.status.phase ≠ integrationKitPhaseNone →
        (kit'.status.phase = integrationKitPhaseReady ↔ kit'.spec.image ≠ "")) := by
  rcases reconcile_exec_cases exec with ⟨rfl, -⟩ | ⟨read, rest, stored', named, rfl, handler⟩
  · exact ⟨kit, stored, .inl rfl, fun unset moved => absurd unset moved⟩
  cases stored.symm.trans stored'
  subst named
  rcases handler with ⟨unset, handling⟩ | ⟨submitted, handling⟩ | ⟨running, handling⟩
  · rcases initializeAction.handle_exec_cases stored handling with ⟨rfl, -⟩ |
      ⟨env, spec, version, -, -, -, -, ⟨-, -, kits⟩ | ⟨-, dgst, written, -, -, kits⟩⟩
    · exact ⟨kit, stored, .inl rfl, fun unset moved => absurd unset moved⟩
    · exact ⟨_, kits, .inl rfl, fun _ moved => absurd (by simpa using unset) moved⟩
    · refine ⟨_, kits, .inr ?_, fun _ _ => ?_⟩ <;> by_cases image : spec.image = ""
      all_goals simp [unset, image, KitEdge.submit, KitEdge.prebuilt]
      exact (by decide : integrationKitPhaseBuildSubmitted ≠ integrationKitPhaseReady)
  · rcases buildAction.handleBuildSubmitted_exec_cases stored handling with ⟨rfl, -⟩ |
      ⟨_, _, _, _, _, _, -, -, -, -, -, -, -, -, kits, -⟩ |
      ⟨_, _, _, _, _, _, -, -, -, -, -, -, -, kits, -⟩ | ⟨_, _, -, -, -, -, kits, -⟩
    · exact ⟨kit, stored, .inl rfl, fun unset moved => absurd unset moved⟩
    · exact ⟨kit, (kits _).trans stored, .inl rfl, fun unset moved => absurd unset moved⟩
    · exact ⟨kit, (kits _).trans stored, .inl rfl, fun unset moved => absurd unset moved⟩
    · refine ⟨_, kits, .inr ?_, fun unset => absurd (submitted.symm.trans unset) (by decide)⟩
      simpa [submitted] using KitEdge.run
  · rcases buildAction.handleBuildRunning_exec_cases stored handling with ⟨rfl, -⟩ |
      ⟨_, _, _, -, -, -, -, -, kits, -⟩ | ⟨_, _, -, -, -, -, -, kits, -⟩
    · exact ⟨kit, stored, .inl rfl, fun unset moved => absurd unset moved⟩
    · refine ⟨_, kits, .inr ?_, fun unset => absurd (running.symm.trans unset) (by decide)⟩
      simpa [running, buildAction.readyTarget] using KitEdge.succeed
    · refine ⟨_, kits, .inr ?_, fun unset => absurd (running.symm.trans unset) (by decide)⟩
      simpa [running, buildAction.errorTarget] using KitEdge.fail

/-! ## Runs -/

theorem Store.writeBuildStatus_kits {store next : Store} {name : NamespacedName}
    {status : BuildStatus} (written : store.writeBuildStatus name status = some next) :
    next.kits = store.kits := by
  obtain ⟨_, -, rfl⟩ := Option.map_eq_some'.mp written
  rfl

theorem Store.writeBuildStatus_integrations {store next : Store} {name : NamespacedName}
    {status : BuildStatus} (written : store.writeBuildStatus name status = some next) :
    next.integrations = store.integrations := by
  obtain ⟨_, -, rfl⟩ := Option.map_eq_some'.mp written
  rfl

/-- Along a run, the kit under `name` stays in the store and its phase walks the
phase graph. -/
theorem Run.kit_phase_path {name : NamespacedName} {store final : Store} {labels : List Label}
    (run : Run name store labels final) {kit : IntegrationKit}
    (stored : store.kits.get name = some kit) :
    ∃ kit', final.kits.get name = some kit' ∧
      Relation.ReflTransGen KitEdge kit.status.phase kit'.status.phase := by
  induction run generalizing kit with
  | nil => exact ⟨kit, stored, .refl⟩
  | cons transition _ ih =>
      cases transition with
      | pass exec =>
          obtain ⟨kit', stored', moved, -⟩ := reconcile_kit_step exec stored
          obtain ⟨kit'', final, walked⟩ := ih stored'
          refine ⟨kit'', final, ?_⟩
          rcases moved with same | edge
          · rwa [same] at walked
          · exact .head edge walked
      | executor _ written => exact ih (by rwa [Store.writeBuildStatus_kits written])

/-- The controller follows the kit phase graph: the two actions never handle the
same kit; a pass that changes the stored phase moves it along one edge, from
`""` to `Ready` exactly when the composed spec names an image; a pass on a kit
in any phase the pool does not handle makes no write call and leaves the store
as it was; and along every run the stored phases walk the graph. -/
theorem reconcile_respects_kit_lifecycle (name : NamespacedName) :
    (∀ kit, ¬(initializeAction.canHandle kit = true ∧ buildAction.canHandle kit = true)) ∧
      (∀ store events result next kit kit', Exec (reconcile name) store events result next →
        store.kits.get name = some kit → next.kits.get name = some kit' →
        kit'.status.phase ≠ kit.status.phase →
        KitEdge kit.status.phase kit'.status.phase ∧
          (kit.status.phase = integrationKitPhaseNone →
            (kit'.status.phase = integrationKitPhaseReady ↔ kit'.spec.image ≠ ""))) ∧
      (∀ store events result next kit, Exec (reconcile name) store events result next →
        store.kits.get name = some kit →
        kit.status.phase ≠ integrationKitPhaseNone →
        kit.status.phase ≠ integrationKitPhaseBuildSubmitted →
        kit.status.phase ≠ integrationKitPhaseBuildRunning →
        next = store ∧ ∀ event ∈ events, event.1.isWrite = false) ∧
      (∀ store labels final kit kit', Run name store labels final →
        store.kits.get name = some kit → final.kits.get name = some kit' →
        Relation.ReflTransGen KitEdge kit.status.phase kit'.status.phase) := by
  refine ⟨canHandle_disjoint, ?_, fun _ _ _ _ _ exec stored => reconcile_exec_of_unhandled exec stored,
    ?_⟩
  · intro store events result next kit kit' exec stored stored' moved
    obtain ⟨kit'', stored'', step, ready⟩ := reconcile_kit_step exec stored
    cases stored'.symm.trans stored''
    refine ⟨step.resolve_left moved, fun unset => ready unset ?_⟩
    rwa [unset] at moved
  · intro store labels final kit kit' run stored stored'
    obtain ⟨kit'', stored'', walked⟩ := run.kit_phase_path stored
    cases stored'.symm.trans stored''
    exact walked

end CamelK
