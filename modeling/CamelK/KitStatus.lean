import CamelK.KitLifecycle

/-!
# The kit statuses a pass writes

A pass writes the status of its kit at most once, through `Status().Update`,
and only in four ways: the initialize action's first status, the move to
`BuildRunning` of a submitted kit whose build runs, and the `Ready` or `Error`
status of a running kit whose build ended.  Each is the status the pass read,
with the fields the code sets.  From this inventory: what a pass persists as
`Ready` or `Error`, and that the artifacts of a stored kit never carry a
location.
-/

namespace CamelK

open Resource Prog

theorem Event.updateKitStatus_inj {target target' : IntegrationKit}
    {answer answer' : Except Error Nat}
    (same : Call.updateKitStatus target = Call.updateKitStatus target' ∧ HEq answer answer') :
    target = target' ∧ answer = answer' := by
  obtain ⟨called, answered⟩ := same
  cases Call.updateKitStatus.inj called
  exact ⟨rfl, eq_of_heq answered⟩

/-- Every status write of a pass, under any answers: the pass read the kit, and
the write is one of the four the actions make. -/
theorem reconcile_statusWrite_cases {name : NamespacedName} {events : List Event}
    {result : Except Error Unit} {target : IntegrationKit} {answer : Except Error Nat}
    (path : Path (reconcile name) events result)
    (mem : (⟨.updateKitStatus target, answer⟩ : Event) ∈ events) :
    ∃ kit rest, events = ⟨.getKit name, .ok kit⟩ :: rest ∧
      ((kit.status.phase = integrationKitPhaseNone ∧ ∃ env spec version dgst,
          rest = [⟨.getCurrentPlatform kit.metadata.namespace, .ok ()⟩,
            ⟨.apply kit, .ok (env, spec)⟩, ⟨.updateKit { kit with spec := spec }, .ok version⟩,
            ⟨.computeDigest (initializeAction.initialTarget
              (withResourceVersion { kit with spec := spec } version)), .ok dgst⟩,
            ⟨.updateKitStatus target, answer⟩] ∧
          target = { initializeAction.initialTarget
            (withResourceVersion { kit with spec := spec } version) with status.digest := dgst }) ∨
        (kit.status.phase = integrationKitPhaseBuildSubmitted ∧ ∃ build,
          build.status.phase = buildPhaseRunning ∧
          rest = [⟨.getBuild kit.metadata.namespacedName, .ok build⟩,
            ⟨.updateKitStatus target, answer⟩] ∧
          target = { kit with status.phase := integrationKitPhaseBuildRunning }) ∨
        (kit.status.phase = integrationKitPhaseBuildRunning ∧ ∃ build inform,
          build.status.phase = buildPhaseSucceeded ∧
          rest = ⟨.getBuild kit.metadata.namespacedName, .ok build⟩ ::
            ⟨.updateKitStatus target, answer⟩ :: inform ∧
          target = buildAction.readyTarget kit build) ∨
        (kit.status.phase = integrationKitPhaseBuildRunning ∧ ∃ build,
          (build.status.phase = buildPhaseError ∨ build.status.phase = buildPhaseInterrupted) ∧
          rest = [⟨.getBuild kit.metadata.namespacedName, .ok build⟩,
            ⟨.updateKitStatus target, answer⟩] ∧
          target = buildAction.errorTarget kit build)) := by
  obtain ⟨got, rest, rfl, cases⟩ := reconcile_path_cases path
  rcases cases with ⟨_, -, rfl, -⟩ | ⟨kit, rfl, unset, handling⟩ | ⟨kit, rfl, -, handling⟩ |
    ⟨_, -, -, -, -, rfl, -⟩
  · simp at mem
  · refine ⟨kit, rest, rfl, .inl ⟨unset, ?_⟩⟩
    rcases initializeAction.handle_path_cases handling with ⟨_, rfl, -⟩ | ⟨_, rfl, -⟩ |
      ⟨_, _, _, rfl, -⟩ | ⟨_, _, _, _, rfl, -⟩ | ⟨env, spec, version, dgst, written, rfl, -⟩
    iterate 4 simp at mem
    simp only [List.mem_cons, List.not_mem_nil, Sigma.mk.inj_iff, reduceCtorEq, false_and,
      false_or, or_false] at mem
    obtain ⟨rfl, rfl⟩ := Event.updateKitStatus_inj mem
    exact ⟨env, spec, version, dgst, rfl, rfl⟩
  · refine ⟨kit, rest, rfl, .inr ?_⟩
    rcases buildAction.handle_path_cases handling with ⟨submitted, handling⟩ |
      ⟨running, handling⟩ | ⟨-, -, rfl, -⟩
    · obtain ⟨got, rest, rfl, (⟨_, rfl, -, rfl, -⟩ | ⟨-, _, recreating, -⟩ |
        ⟨build, rfl, -, marking⟩)⟩ := buildAction.handleBuildSubmitted_path_cases handling
      · simp at mem
      · rcases buildAction.recreateBuild_path_cases recreating with ⟨_, rfl, -⟩ |
          ⟨_, _, -, rfl, -⟩ | ⟨_, _, _, _, _, -, -, rfl, -⟩ | ⟨_, _, _, _, _, -, -, rfl, -⟩ |
          ⟨_, _, _, _, _, -, -, rfl, -⟩ <;> simp at mem
      · rcases buildAction.markBuildRunning_path_cases marking with
          ⟨running, written, rfl, -⟩ | ⟨-, rfl, -⟩
        · simp only [List.mem_cons, List.not_mem_nil, Sigma.mk.inj_iff, reduceCtorEq,
            false_and, false_or, or_false] at mem
          obtain ⟨rfl, rfl⟩ := Event.updateKitStatus_inj mem
          exact .inl ⟨submitted, build, running, rfl, rfl⟩
        · simp at mem
    · obtain ⟨got, rest, rfl, (⟨_, rfl, rfl, -⟩ | ⟨build, rfl, succeeded, succeeding⟩ |
        ⟨build, rfl, failed, failing⟩ | ⟨_, rfl, -, -, -, rfl, -⟩)⟩ :=
        buildAction.handleBuildRunning_path_cases handling
      · simp at mem
      · rcases buildAction.buildSucceeded_path_cases succeeding with ⟨-, rfl, -⟩ |
          ⟨-, err, rfl, -⟩ | ⟨-, version, inform, rfl, informing⟩
        · simp at mem
        · simp only [List.mem_cons, List.not_mem_nil, Sigma.mk.inj_iff, reduceCtorEq,
            false_and, false_or, or_false] at mem
          obtain ⟨rfl, rfl⟩ := Event.updateKitStatus_inj mem
          exact .inr (.inl ⟨running, build, [], succeeded, rfl, rfl⟩)
        · simp only [List.mem_cons, Sigma.mk.inj_iff, reduceCtorEq, false_and, false_or] at mem
          rcases mem with same | mem
          · obtain ⟨rfl, rfl⟩ := Event.updateKitStatus_inj same
            exact .inr (.inl ⟨running, build, inform, succeeded, rfl, rfl⟩)
          · rcases buildAction.informIntegrations_path_calls informing _ mem with same | ⟨_, same⟩ <;>
              cases same
      · rcases buildAction.buildFailed_path_cases failing with ⟨-, rfl, -⟩ |
          ⟨-, written, rfl, -⟩
        · simp at mem
        · simp only [List.mem_cons, List.not_mem_nil, Sigma.mk.inj_iff, reduceCtorEq,
            false_and, false_or, or_false] at mem
          obtain ⟨rfl, rfl⟩ := Event.updateKitStatus_inj mem
          exact .inr (.inr ⟨running, build, failed, rfl, rfl⟩)
      · simp at mem
    · simp at mem
  · simp at mem

/-- The status of the kit after a pass is the status before it, or a status the
pass persisted. -/
theorem reconcile_kit_status {name : NamespacedName} {store next : Store} {events : List Event}
    {result : Except Error Unit} {kit' : IntegrationKit}
    (exec : Exec (reconcile name) store events result next)
    (stored' : next.kits.get name = some kit') :
    ∃ kit, store.kits.get name = some kit ∧ (kit'.status = kit.status ∨
      ∃ target version, (⟨.updateKitStatus target, .ok version⟩ : Event) ∈ events ∧
        kit'.status = target.status) := by
  rcases reconcile_exec_cases exec with ⟨rfl, -⟩ | ⟨kit, rest, stored, named, rfl, handler⟩
  · exact ⟨kit', stored', .inl rfl⟩
  subst named
  refine ⟨kit, stored, ?_⟩
  rcases handler with ⟨-, handling⟩ | ⟨-, handling⟩ | ⟨-, handling⟩
  · rcases initializeAction.handle_exec_cases stored handling with ⟨rfl, -⟩ |
      ⟨env, spec, version, -, -, -, -, ⟨-, -, kits⟩ | ⟨-, dgst, written, -, persisted, kits⟩⟩
    · cases stored'.symm.trans stored
      exact .inl rfl
    · cases stored'.symm.trans kits
      exact .inl rfl
    · cases stored'.symm.trans kits
      exact .inr ⟨_, written, List.mem_cons_of_mem _ persisted, rfl⟩
  · rcases buildAction.handleBuildSubmitted_exec_cases stored handling with ⟨rfl, -⟩ |
      ⟨_, _, _, _, _, _, -, -, -, -, -, -, -, -, kits, -⟩ |
      ⟨_, _, _, _, _, _, -, -, -, -, -, -, -, kits, -⟩ | ⟨_, version, -, -, rfl, -, kits, -⟩
    · cases stored'.symm.trans stored
      exact .inl rfl
    · cases stored'.symm.trans ((kits _).trans stored)
      exact .inl rfl
    · cases stored'.symm.trans ((kits _).trans stored)
      exact .inl rfl
    · cases stored'.symm.trans kits
      exact .inr ⟨_, version, by simp, rfl⟩
  · rcases buildAction.handleBuildRunning_exec_cases stored handling with ⟨rfl, -⟩ |
      ⟨_, version, _, -, -, -, rfl, -, kits, -⟩ | ⟨_, version, -, -, -, rfl, -, kits, -⟩
    · cases stored'.symm.trans stored
      exact .inl rfl
    · cases stored'.symm.trans kits
      exact .inr ⟨_, version, by simp, rfl⟩
    · cases stored'.symm.trans kits
      exact .inr ⟨_, version, by simp, rfl⟩

/-- What a pass persists as `Ready` or `Error`: `Ready` only from the initialize
action on an unset kit whose composed spec names an image, with that image and
the digest of the resulting kit, or from a running kit whose build succeeded,
with the build's images and its artifacts stripped of their location; `Error`
only from a running kit whose build failed or was interrupted, with the build's
failure.  Every other status field is the one the pass read. -/
theorem persisted_ready_or_error {name : NamespacedName} {store next : Store}
    {events : List Event} {result : Except Error Unit}
    (exec : Exec (reconcile name) store events result next) {target : IntegrationKit}
    {version : Nat} (persisted : (⟨.updateKitStatus target, .ok version⟩ : Event) ∈ events) :
    (target.status.phase = integrationKitPhaseReady →
      ∃ kit, store.kits.get name = some kit ∧
        ((kit.status.phase = integrationKitPhaseNone ∧ ∃ env spec written dgst,
            (⟨.apply kit, .ok (env, spec)⟩ : Event) ∈ events ∧ spec.image ≠ "" ∧
            (⟨.computeDigest (initializeAction.initialTarget
              (withResourceVersion { kit with spec := spec } written)), .ok dgst⟩ : Event) ∈ events ∧
            target.status = { kit.status with
              phase := integrationKitPhaseReady, image := spec.image, digest := dgst }) ∨
          (kit.status.phase = integrationKitPhaseBuildRunning ∧ ∃ build,
            (⟨.getBuild name, .ok build⟩ : Event) ∈ events ∧ store.builds.get name = some build ∧
            build.status.phase = buildPhaseSucceeded ∧
            target.status = { kit.status with
              baseImage := build.status.baseImage, image := build.status.image,
              publicImage := build.status.publicImage, phase := integrationKitPhaseReady,
              artifacts := build.status.artifacts.map fun artifact =>
                { id := artifact.id, location := "", target := artifact.target } }))) ∧
    (target.status.phase = integrationKitPhaseError →
      ∃ kit build, store.kits.get name = some kit ∧
        kit.status.phase = integrationKitPhaseBuildRunning ∧
        (⟨.getBuild name, .ok build⟩ : Event) ∈ events ∧ store.builds.get name = some build ∧
        (build.status.phase = buildPhaseError ∨ build.status.phase = buildPhaseInterrupted) ∧
        target.status = { kit.status with
          failure := build.status.failure, phase := integrationKitPhaseError }) := by
  obtain ⟨path, responses⟩ := exec
  obtain ⟨kit, rest, rfl, cases⟩ := reconcile_statusWrite_cases path persisted
  obtain ⟨stored, following⟩ := responses.getKit_head
  have named : kit.metadata.namespacedName = name := Table.key_of_get stored
  rcases cases with ⟨unset, env, spec, written, dgst, rfl, rfl⟩ |
    ⟨-, build, -, rfl, rfl⟩ | ⟨running, build, inform, succeeded, rfl, rfl⟩ |
    ⟨running, build, failed, rfl, rfl⟩
  · by_cases image : spec.image = ""
    · refine ⟨fun ready => absurd ready ?_, fun failed => absurd failed ?_⟩ <;>
        simp [image] <;> decide
    · refine ⟨fun _ => ⟨kit, stored, .inl ⟨unset, env, spec, written, dgst, by simp, image,
        by simp, ?_⟩⟩, fun failed => absurd failed ?_⟩
      · simp [initializeAction.initialTarget, image]
      · simp [image]
        decide
  · exact ⟨fun ready => absurd (show integrationKitPhaseBuildRunning = _ from ready) (by decide),
      fun failed => absurd (show integrationKitPhaseBuildRunning = _ from failed) (by decide)⟩
  · have fetched := following.getBuild_head.1
    rw [named] at fetched
    exact ⟨fun _ => ⟨kit, stored, .inr ⟨running, build, by simp [named], fetched, succeeded, rfl⟩⟩,
      fun failed => absurd (show integrationKitPhaseReady = _ from failed) (by decide)⟩
  · have fetched := following.getBuild_head.1
    rw [named] at fetched
    exact ⟨fun ready => absurd (show integrationKitPhaseError = _ from ready) (by decide),
      fun _ => ⟨kit, build, stored, running, by simp [named], fetched, failed, rfl⟩⟩

/-! ## Artifacts without location -/

/-- No artifact of the status carries a location. -/
def ArtifactsUnlocated (status : IntegrationKitStatus) : Prop :=
  ∀ artifact ∈ status.artifacts, artifact.location = ""

instance : DecidablePred ArtifactsUnlocated :=
  fun status => inferInstanceAs (Decidable (∀ artifact ∈ status.artifacts, artifact.location = ""))

/-- A pass on a kit whose artifacts carry no location writes only such
statuses: the artifacts it writes are the kit's own, or the build's stripped of
their location. -/
theorem reconcile_persists_unlocated {name : NamespacedName} {store next : Store}
    {events : List Event} {result : Except Error Unit}
    (exec : Exec (reconcile name) store events result next)
    (unlocated : ∀ kit, store.kits.get name = some kit → ArtifactsUnlocated kit.status)
    {target : IntegrationKit} {answer : Except Error Nat}
    (written : (⟨.updateKitStatus target, answer⟩ : Event) ∈ events) :
    ArtifactsUnlocated target.status := by
  obtain ⟨kit, rest, rfl, cases⟩ := reconcile_statusWrite_cases exec.1 written
  have read := unlocated kit exec.2.getKit_head.1
  rcases cases with ⟨-, env, spec, version, dgst, -, rfl⟩ | ⟨-, build, -, -, rfl⟩ |
    ⟨-, build, -, -, -, rfl⟩ | ⟨-, build, -, -, rfl⟩
  · unfold initializeAction.initialTarget
    split <;> exact read
  · exact read
  · intro artifact mem
    obtain ⟨_, -, rfl⟩ := List.mem_map.mp mem
    rfl
  · exact read

/-- Along every run from a kit whose artifacts carry no location, every status a
pass persists, and so every status the kit is stored with, has artifacts without
location, whatever artifacts the builds report; in particular a ready kit never
carries one. -/
theorem kit_artifacts_stay_unlocated {name : NamespacedName} {store final : Store}
    {labels : List Label} (run : Run name store labels final)
    (initial : ∀ kit, store.kits.get name = some kit → ArtifactsUnlocated kit.status) :
    (∀ events result, Label.pass events result ∈ labels → ∀ target version,
      (⟨.updateKitStatus target, .ok version⟩ : Event) ∈ events →
        ArtifactsUnlocated target.status) ∧
      ∀ kit, final.kits.get name = some kit → ArtifactsUnlocated kit.status := by
  induction run with
  | nil => exact ⟨by simp, initial⟩
  | @cons store next final label labels transition _ ih =>
      cases transition with
      | pass exec =>
          have kept : ∀ kit', next.kits.get name = some kit' → ArtifactsUnlocated kit'.status :=
              fun kit' stored' => by
            obtain ⟨kit, stored, same | ⟨target, version, written, same⟩⟩ :=
              reconcile_kit_status exec stored'
            · exact same ▸ initial kit stored
            · exact same ▸ reconcile_persists_unlocated exec initial written
          obtain ⟨later, final⟩ := ih kept
          refine ⟨fun events result mem => ?_, final⟩
          rcases List.mem_cons.mp mem with same | mem
          · cases same
            exact fun _ _ written => reconcile_persists_unlocated exec initial written
          · exact later events result mem
      | executor _ written =>
          obtain ⟨later, final⟩ := ih (by rwa [Store.writeBuildStatus_kits written])
          refine ⟨fun events result mem => ?_, final⟩
          rcases List.mem_cons.mp mem with same | mem
          · cases same
          · exact later events result mem

/-! ## Passes that persist `Ready` or `Error` -/

/-- A kit waiting for its build. -/
def buildingKit : IntegrationKit :=
  { metadata := { «namespace» := "default", name := "example" }
    status := { phase := integrationKitPhaseBuildRunning } }

/-- Its build, which failed. -/
def failedBuild : Build :=
  { metadata := { «namespace» := "default", name := "example" }
    status := { phase := buildPhaseError, failure := some ⟨"exit status 1"⟩ } }

/-- Its build, which succeeded and reports an artifact with its location in the
builder. -/
def locatedBuild : Build :=
  { metadata := { «namespace» := "default", name := "example" }
    status :=
      { phase := buildPhaseSucceeded, baseImage := "base:1", image := "example:1",
        publicImage := "registry/example:1",
        artifacts := [{ id := "a", location := "/tmp/a", target := "t" }] } }

/-- The store once the kit and one build were created. -/
def buildingStore (build : Build) : Store :=
  (Store.empty.insertKit buildingKit).insertBuild build

/-- The pass that records the failure. -/
def failedPass : List Event :=
  [⟨.getKit buildingKit.metadata.namespacedName, .ok (withResourceVersion buildingKit 1)⟩,
    ⟨.getBuild buildingKit.metadata.namespacedName, .ok (withResourceVersion failedBuild 2)⟩,
    ⟨.updateKitStatus (buildAction.errorTarget (withResourceVersion buildingKit 1)
      (withResourceVersion failedBuild 2)), .ok 3⟩]

theorem failedPass_exec :
    Exec (reconcile buildingKit.metadata.namespacedName) (buildingStore failedBuild) failedPass
      (.ok ()) ((buildingStore failedBuild).setKit (buildAction.errorTarget
        (withResourceVersion buildingKit 1) (withResourceVersion failedBuild 2))) :=
  ⟨.call (.call (.call (.done _))), .cons (.serve rfl) (.cons (.serve rfl) (.cons (.serve rfl) (.nil _)))⟩

/-- The pass that writes the kit `Ready` from the build that succeeded, in a
namespace with no integration. -/
def locatedPass : List Event :=
  [⟨.getKit buildingKit.metadata.namespacedName, .ok (withResourceVersion buildingKit 1)⟩,
    ⟨.getBuild buildingKit.metadata.namespacedName, .ok (withResourceVersion locatedBuild 2)⟩,
    ⟨.updateKitStatus (buildAction.readyTarget (withResourceVersion buildingKit 1)
      (withResourceVersion locatedBuild 2)), .ok 3⟩,
    ⟨.listIntegrations "default", .ok []⟩]

theorem locatedPass_exec :
    Exec (reconcile buildingKit.metadata.namespacedName) (buildingStore locatedBuild) locatedPass
      (.ok ()) ((buildingStore locatedBuild).setKit (buildAction.readyTarget
        (withResourceVersion buildingKit 1) (withResourceVersion locatedBuild 2))) :=
  ⟨.call (.call (.call (.call (.done _)))),
    .cons (.serve rfl) (.cons (.serve rfl) (.cons (.serve rfl) (.cons (.serve rfl) (.nil _))))⟩

/-- An unset kit, and the spec its traits compose, which names an image. -/
def prebuiltKit : IntegrationKit :=
  { metadata := { «namespace» := "default", name := "prebuilt" } }

@[inherit_doc prebuiltKit]
def prebuiltSpec : IntegrationKitSpec :=
  { image := "registry/prebuilt:1" }

/-- The kit the initialize action composes, once its spec was written. -/
def prebuiltTarget : IntegrationKit :=
  initializeAction.initialTarget
    (withResourceVersion { withResourceVersion prebuiltKit 1 with spec := prebuiltSpec } 2)

/-- The initialize action on it: the kit is `Ready` at once, with the image. -/
def prebuiltPass : List Event :=
  [⟨.getKit prebuiltKit.metadata.namespacedName, .ok (withResourceVersion prebuiltKit 1)⟩,
    ⟨.getCurrentPlatform "default", .ok ()⟩,
    ⟨.apply (withResourceVersion prebuiltKit 1), .ok ({}, prebuiltSpec)⟩,
    ⟨.updateKit { withResourceVersion prebuiltKit 1 with spec := prebuiltSpec }, .ok 2⟩,
    ⟨.computeDigest prebuiltTarget, .ok "sha"⟩,
    ⟨.updateKitStatus { prebuiltTarget with status.digest := "sha" }, .ok 3⟩]

theorem prebuiltPass_exec :
    ∃ next, Exec (reconcile prebuiltKit.metadata.namespacedName)
      (Store.empty.insertKit prebuiltKit) prebuiltPass (.ok ()) next :=
  ⟨_, .call (.call (.call (.call (.call (.call (.done _)))))),
    .cons (.serve rfl) (.cons (.collaborate rfl) (.cons (.collaborate rfl) (.cons (.serve rfl)
      (.cons (.collaborate rfl) (.cons (.serve rfl) (.nil _))))))⟩

/-- The three ways a pass persists `Ready` or `Error`: the initialize action on
a kit whose composed spec names an image, the build action on a running kit
whose build succeeded, which copies its images and strips its artifact of its
location, and the build action on a running kit whose build failed. -/
theorem passes_persist_ready_or_error :
    ((⟨.updateKitStatus { prebuiltTarget with status.digest := "sha" }, .ok 3⟩ : Event) ∈
        prebuiltPass ∧
      ∃ kit, (Store.empty.insertKit prebuiltKit).kits.get prebuiltKit.metadata.namespacedName =
          some kit ∧ kit.status.phase = integrationKitPhaseNone ∧ ∃ env spec written dgst,
        (⟨.apply kit, .ok (env, spec)⟩ : Event) ∈ prebuiltPass ∧ spec.image ≠ "" ∧
        (⟨.computeDigest (initializeAction.initialTarget
          (withResourceVersion { kit with spec := spec } written)), .ok dgst⟩ : Event) ∈
          prebuiltPass ∧
        { prebuiltTarget with status.digest := "sha" }.status =
          { kit.status with phase := integrationKitPhaseReady, image := spec.image, digest := dgst }) ∧
    ((⟨.updateKitStatus (buildAction.readyTarget (withResourceVersion buildingKit 1)
        (withResourceVersion locatedBuild 2)), .ok 3⟩ : Event) ∈ locatedPass ∧
      ∃ kit, (buildingStore locatedBuild).kits.get buildingKit.metadata.namespacedName = some kit ∧
        kit.status.phase = integrationKitPhaseBuildRunning ∧ ∃ build,
        (⟨.getBuild buildingKit.metadata.namespacedName, .ok build⟩ : Event) ∈ locatedPass ∧
        (buildingStore locatedBuild).builds.get buildingKit.metadata.namespacedName = some build ∧
        build.status.phase = buildPhaseSucceeded ∧
        (buildAction.readyTarget (withResourceVersion buildingKit 1)
          (withResourceVersion locatedBuild 2)).status = { kit.status with
            baseImage := build.status.baseImage, image := build.status.image,
            publicImage := build.status.publicImage, phase := integrationKitPhaseReady,
            artifacts := build.status.artifacts.map fun artifact =>
              { id := artifact.id, location := "", target := artifact.target } }) ∧
    (⟨.updateKitStatus (buildAction.errorTarget (withResourceVersion buildingKit 1)
        (withResourceVersion failedBuild 2)), .ok 3⟩ : Event) ∈ failedPass ∧
      ∃ kit build, (buildingStore failedBuild).kits.get buildingKit.metadata.namespacedName =
          some kit ∧
        kit.status.phase = integrationKitPhaseBuildRunning ∧
        (⟨.getBuild buildingKit.metadata.namespacedName, .ok build⟩ : Event) ∈ failedPass ∧
        (buildingStore failedBuild).builds.get buildingKit.metadata.namespacedName = some build ∧
        (build.status.phase = buildPhaseError ∨ build.status.phase = buildPhaseInterrupted) ∧
        (buildAction.errorTarget (withResourceVersion buildingKit 1)
          (withResourceVersion failedBuild 2)).status =
          { kit.status with failure := build.status.failure, phase := integrationKitPhaseError } := by
  have initialized : (⟨.updateKitStatus { prebuiltTarget with status.digest := "sha" }, .ok 3⟩ :
      Event) ∈ prebuiltPass := by simp [prebuiltPass]
  have readied : (⟨.updateKitStatus (buildAction.readyTarget (withResourceVersion buildingKit 1)
      (withResourceVersion locatedBuild 2)), .ok 3⟩ : Event) ∈ locatedPass := by simp [locatedPass]
  have failed : (⟨.updateKitStatus (buildAction.errorTarget (withResourceVersion buildingKit 1)
      (withResourceVersion failedBuild 2)), .ok 3⟩ : Event) ∈ failedPass := by simp [failedPass]
  obtain ⟨_, initializing⟩ := prebuiltPass_exec
  obtain ⟨kit, stored, fromImage⟩ := (persisted_ready_or_error initializing initialized).1 rfl
  obtain ⟨kit', stored', fromBuild⟩ := (persisted_ready_or_error locatedPass_exec readied).1 rfl
  cases stored
  cases stored'
  exact ⟨⟨initialized, _, rfl, fromImage.resolve_right fun ⟨running, _⟩ => absurd running (by decide)⟩,
    ⟨readied, _, rfl, fromBuild.resolve_left fun ⟨unset, _⟩ => absurd unset (by decide)⟩, failed,
    (persisted_ready_or_error failedPass_exec failed).2 rfl⟩

/-- The build reports its artifact with a location; the kit written `Ready`
from it carries the artifact without one. -/
theorem locatedPass_keeps_unlocated :
    Run buildingKit.metadata.namespacedName (buildingStore locatedBuild)
        [.pass locatedPass (.ok ())]
        ((buildingStore locatedBuild).setKit (buildAction.readyTarget
          (withResourceVersion buildingKit 1) (withResourceVersion locatedBuild 2))) ∧
      (∀ kit, (buildingStore locatedBuild).kits.get buildingKit.metadata.namespacedName =
        some kit → ArtifactsUnlocated kit.status) ∧
      { id := "a", location := "/tmp/a", target := "t" } ∈ locatedBuild.status.artifacts ∧
      (∀ events result, Label.pass events result ∈ [Label.pass locatedPass (.ok ())] →
        ∀ target version, (⟨.updateKitStatus target, .ok version⟩ : Event) ∈ events →
          ArtifactsUnlocated target.status) ∧
      (∀ kit, ((buildingStore locatedBuild).setKit (buildAction.readyTarget
          (withResourceVersion buildingKit 1) (withResourceVersion locatedBuild 2))).kits.get
          buildingKit.metadata.namespacedName = some kit → ArtifactsUnlocated kit.status) ∧
      (((buildingStore locatedBuild).setKit (buildAction.readyTarget
          (withResourceVersion buildingKit 1) (withResourceVersion locatedBuild 2))).kits.get
          buildingKit.metadata.namespacedName).map (·.status.artifacts) =
        some [{ id := "a", location := "", target := "t" }] := by
  have run := Run.cons (.pass locatedPass_exec) (.nil _)
  have initial : ∀ kit, (buildingStore locatedBuild).kits.get buildingKit.metadata.namespacedName =
      some kit → ArtifactsUnlocated kit.status := by
    intro kit stored
    cases stored.symm.trans (rfl : _ = some (withResourceVersion buildingKit 1))
    decide
  exact ⟨run, initial, by simp [locatedBuild], (kit_artifacts_stay_unlocated run initial).1,
    (kit_artifacts_stay_unlocated run initial).2, rfl⟩

end CamelK
