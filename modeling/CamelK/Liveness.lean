import CamelK.Progress

/-!
# A kit gets built when nothing fails

`Progress` bounds what passes meeting no failure do: at most four of them write.
This file shows that the bound is reached and that the kit ends `Ready`.  From a
store holding an unset kit and no build of its name, with the platform found,
the traits composing a spec with no image and an environment with a Camel
catalog, and a digest computed, there is a run in which a pass submits the kit,
a pass creates its build, the build executor starts the build, a pass marks the
kit running, the executor ends the build with success, and a pass writes the
kit `Ready`, with the images of the build, and sets every integration waiting
for it to `ResolvingKit`.  Each pass is built call by call, the store giving its
own answers.
-/

namespace CamelK

open Resource Prog

/-! ## Executions built call by call -/

namespace Prog.Exec

variable {α β : Type} {store after final : Store} {events : List Event} {value : α}

theorem returns (value : α) (store : Store) : Exec (.done value) store [] value store :=
  ⟨.done _, .nil _⟩

theorem serve {request : Call} {next : Except Error request.Out → Prog α}
    {answer : Except Error request.Out} (served : request.serve store = some (answer, after))
    (following : Exec (next answer) after events value final) :
    Exec (.call request next) store (⟨request, answer⟩ :: events) value final :=
  ⟨.call following.1, .cons (.serve served) following.2⟩

theorem collaborate (request : Call) {next : Except Error request.Out → Prog α}
    (answer : Except Error request.Out) (unserved : request.serve store = none)
    (following : Exec (next answer) store events value final) :
    Exec (.call request next) store (⟨request, answer⟩ :: events) value final :=
  ⟨.call following.1, .cons (.collaborate unserved) following.2⟩

theorem bind {program : Prog α} {resume : α → Prog β} {first second : List Event} {middle : α}
    {result : β} (head : Exec program store first middle after)
    (tail : Exec (resume middle) after second result final) :
    Exec (program.bind resume) store (first ++ second) result final :=
  ⟨path_bind.mpr ⟨first, middle, second, rfl, head.1, tail.1⟩,
    responses_append.mpr ⟨after, head.2, tail.2⟩⟩

end Prog.Exec

/-! ## The store's own answers -/

theorem Table.current_of_get {α : Type} [Resource α] {table : Table α} {object held : α}
    (found : table.get (key object) = some held)
    (same : resourceVersion held = resourceVersion object) :
    table.current object = .ok held := by
  simp [Table.current, found, same]

section Serve

variable {store : Store}

theorem Call.serve_getKit {name : NamespacedName} {kit : IntegrationKit}
    (stored : store.kits.get name = some kit) :
    (Call.getKit name).serve store = some (.ok kit, store) := by
  simp [Call.serve, Store.getKit, stored]

theorem Call.serve_updateKit {kit : IntegrationKit} (current : IntegrationKit)
    (found : store.kits.get (key kit) = some current)
    (same : resourceVersion current = resourceVersion kit) :
    (Call.updateKit kit).serve store =
      some (.ok (store.revision + 1), store.setKit { kit with status := current.status }) := by
  simp [Call.serve, Store.updateKit, Table.current_of_get found same, Except.map, Store.answer]

theorem Call.serve_updateKitStatus {kit : IntegrationKit} (current : IntegrationKit)
    (found : store.kits.get (key kit) = some current)
    (same : resourceVersion current = resourceVersion kit) :
    (Call.updateKitStatus kit).serve store =
      some (.ok (store.revision + 1), store.setKit { current with status := kit.status }) := by
  simp [Call.serve, Store.updateKitStatus, Table.current_of_get found same, Except.map,
    Store.answer]

theorem Call.serve_getBuild {name : NamespacedName} {build : Build}
    (built : store.builds.get name = some build) :
    (Call.getBuild name).serve store = some (.ok build, store) := by
  simp [Call.serve, Store.getBuild, built]

theorem Call.serve_getBuild_absent {name : NamespacedName} (absent : store.builds.get name = none) :
    (Call.getBuild name).serve store =
      some (.error (.notFound (Resource.resource Build) name), store) := by
  simp [Call.serve, Store.getBuild, absent]

theorem Call.serve_deleteBuild_absent {build : Build}
    (absent : store.builds.get (key build) = none) :
    (Call.deleteBuild build).serve store =
      some (.error (.notFound (Resource.resource Build) (key build)), store) := by
  have absent : store.builds.get build.metadata.namespacedName = none := absent
  simp [Call.serve, Store.deleteBuild, absent, Except.map, Store.answer]

theorem Call.serve_createBuild {build : Build} (absent : store.builds.get (key build) = none) :
    (Call.createBuild build).serve store =
      some (.ok (store.revision + 1), store.insertBuild build) := by
  have absent : store.builds.get build.metadata.namespacedName = none := absent
  simp [Call.serve, Store.createBuild, absent, Store.answer]

theorem Call.serve_updateIntegrationStatus {integration current : Integration}
    (found : store.integrations.get (key integration) = some current)
    (same : resourceVersion current = resourceVersion integration) :
    (Call.updateIntegrationStatus integration).serve store =
      some (.ok (store.revision + 1),
        store.setIntegration { current with status := integration.status }) := by
  simp [Call.serve, Store.updateIntegrationStatus, Table.current_of_get found same, Except.map,
    Store.answer]

/-- The informing update of an integration held as listed. -/
theorem Call.serve_resolvingKit {item : Integration}
    (held : store.integrations.get (key item) = some item) :
    (Call.updateIntegrationStatus { item with status.phase := integrationPhaseResolvingKit }).serve
        store =
      some (.ok (store.revision + 1),
        store.setIntegration { item with status.phase := integrationPhaseResolvingKit }) :=
  Call.serve_updateIntegrationStatus held rfl

/-- A write of one integration leaves any other held as it was. -/
theorem Store.setIntegration_get_of_ne (written : Integration) {item : Integration}
    (apart : key item ≠ key written) (held : store.integrations.get (key item) = some item) :
    (store.setIntegration written).integrations.get (key item) = some item := by
  simp only [Store.setIntegration]
  rw [Table.get_set_of_ne _ (by simpa using apart)]
  exact held

@[inherit_doc Store.setIntegration_get_of_ne]
theorem Store.setIntegration_keeps_held (written : Integration) {items : List Integration}
    (fresh : key written ∉ items.map key)
    (held : ∀ item ∈ items, store.integrations.get (key item) = some item) :
    ∀ item ∈ items, (store.setIntegration written).integrations.get (key item) = some item :=
  fun item mem => Store.setIntegration_get_of_ne written
    (fun same => fresh (same ▸ List.mem_map_of_mem _ mem)) (held item mem)

theorem Store.insertBuild_get {build : Build} (absent : store.builds.get (key build) = none) :
    (store.insertBuild build).builds.get (key build) =
      some (withResourceVersion build (store.revision + 1)) := by
  have inserted := Table.get_insert store.builds (withResourceVersion build (store.revision + 1))
    (by rwa [key_withResourceVersion]) (key build)
  simpa only [key_withResourceVersion, if_true] using inserted

/-- The build executor writes the status of a held build, and nothing else. -/
theorem Store.writeBuildStatus_held {name : NamespacedName} {build : Build}
    (built : store.builds.get name = some build) (status : BuildStatus) :
    ∃ next, store.writeBuildStatus name status = some next ∧ next.kits = store.kits ∧
      next.integrations = store.integrations ∧
      next.builds.get name = some (withResourceVersion { build with status := status } (store.revision + 1)) := by
  have named : build.metadata.namespacedName = name := Table.key_of_get built
  refine ⟨store.setBuild { build with status := status }, by simp [Store.writeBuildStatus, built],
    rfl, rfl, ?_⟩
  simp [Store.setBuild, Table.get_set_eq, built, named]

end Serve

/-! ## The loop of `informIntegrations` -/

/-- The loop of `informIntegrations` succeeds on integrations held in the store
as listed, under names that differ. -/
theorem buildAction.informEach_succeeds (kit : IntegrationKit) :
    ∀ (items : List Integration) (store : Store), (items.map key).Nodup →
      (∀ item ∈ items, store.integrations.get (key item) = some item) →
      ∃ events next, Exec (buildAction.informEach kit items) store events (.ok ()) next ∧
        events.all Event.healthy = true ∧ next.kits = store.kits ∧ next.builds = store.builds
  | [], store, _, _ => ⟨[], store, Exec.returns _ _, rfl, rfl, rfl⟩
  | item :: rest, store, distinct, held => by
      obtain ⟨fresh, distinct⟩ := List.nodup_cons.mp distinct
      by_cases other : item.status.kit ≠ kit.metadata.name
      case pos =>
        obtain ⟨events, next, exec, healthy, kits, builds⟩ :=
          buildAction.informEach_succeeds kit rest store distinct
            fun item mem => held item (List.mem_cons_of_mem _ mem)
        refine ⟨events, next, ?_, healthy, kits, builds⟩
        rw [buildAction.informEach, if_pos other]
        exact exec
      case neg =>
        obtain ⟨events, next, exec, healthy, kits, builds⟩ :=
          buildAction.informEach_succeeds kit rest
            (store.setIntegration { item with status.phase := integrationPhaseResolvingKit })
            distinct (Store.setIntegration_keeps_held _ fresh
              fun listed mem => held listed (List.mem_cons_of_mem _ mem))
        have updating : Exec (buildAction.informEach kit (item :: rest)) store
            (⟨.updateIntegrationStatus { item with status.phase := integrationPhaseResolvingKit },
              .ok (store.revision + 1)⟩ :: events) (.ok ()) next := by
          rw [buildAction.informEach, if_neg other]
          exact Exec.serve (Call.serve_resolvingKit (held item (List.mem_cons_self _ _))) exec
        exact ⟨_, next, updating, healthy, kits, builds⟩

theorem buildAction.informIntegrations_succeeds (kit : IntegrationKit) (store : Store) :
    ∃ events next, Exec (buildAction.informIntegrations kit) store events (.ok ()) next ∧
      events.all Event.healthy = true ∧ next.kits = store.kits ∧ next.builds = store.builds := by
  obtain ⟨events, next, exec, healthy, kits, builds⟩ :=
    buildAction.informEach_succeeds kit (store.integrations.list kit.metadata.namespace) store
      (store.integrations.nodup.sublist ((List.filter_sublist _).map _))
      fun item mem => Table.get_of_mem (List.mem_filter.mp mem).1
  exact ⟨_, next, Exec.serve rfl (Exec.bind (Exec.returns _ _) exec), healthy, kits, builds⟩

/-! ## The four passes -/

/-- A pass reads the kit and runs the handler of the action the pool picks for it. -/
theorem reconcile_exec_dispatch {name : NamespacedName} {store next : Store}
    {kit : IntegrationKit} {action : Action} {events : List Event} {result : Except Error Unit}
    (stored : store.kits.get name = some kit)
    (found : integrationKitActionPool.find? (fun action => action.canHandle kit) = some action)
    (handling : Exec (action.handle kit) store events result next) :
    Exec (reconcile name) store (⟨.getKit name, .ok kit⟩ :: events) result next := by
  refine Exec.serve (Call.serve_getKit stored) ?_
  simp only [done_bind, found]
  exact handling

/-- A pass on an unset kit writes the composed spec, then the status
`BuildSubmitted` with the digest. -/
theorem reconcile_submits_unset {name : NamespacedName} {store : Store} {kit : IntegrationKit}
    (stored : store.kits.get name = some kit) (unset : kit.status.phase = integrationKitPhaseNone)
    (env : Environment) (catalog : CamelCatalog) (spec : IntegrationKitSpec) (dgst : String)
    (fromSource : spec.image = "") :
    ∃ events next, Exec (reconcile name) store events (.ok ()) next ∧
      events.all Event.healthy = true ∧ events.any Event.accepted = true ∧
      (∃ kit', next.kits.get name = some kit' ∧
        kit'.status.phase = integrationKitPhaseBuildSubmitted ∧ kit'.spec = spec ∧
        kit'.status.digest = dgst) ∧
      next.builds = store.builds ∧ next.integrations = store.integrations := by
  obtain rfl : key kit = name := Table.key_of_get stored
  have found : store.kits.get kit.metadata.namespacedName = some kit := stored
  have dispatched : integrationKitActionPool.find? (fun action => action.canHandle kit) =
      some newInitializeAction := by
    simp [integrationKitActionPool, List.find?, newInitializeAction, initializeAction.canHandle,
      unset]
  refine ⟨_, _, reconcile_exec_dispatch stored dispatched <|
    Exec.collaborate (.getCurrentPlatform _) (.ok ()) rfl <|
    Exec.collaborate (.apply _) (.ok ({ env with camelCatalog := some catalog }, spec)) rfl <|
    Exec.serve (Call.serve_updateKit kit stored rfl) <|
    Exec.collaborate (.computeDigest _) (.ok dgst) rfl <|
    Exec.serve (Call.serve_updateKitStatus (withResourceVersion { kit with spec := spec }
      (store.revision + 1)) (by simp [Store.setKit, Table.get_set_eq, found]) (by simp))
      (Exec.returns _ _), rfl, rfl, ?_, rfl, rfl⟩
  simp [Store.setKit, Table.get_set_eq, found, fromSource]

/-- A pass on a submitted kit with no build creates the build the kit controls,
from the composition, and leaves the kit as it was. -/
theorem reconcile_creates_build {name : NamespacedName} {store : Store} {kit : IntegrationKit}
    (stored : store.kits.get name = some kit)
    (submitted : kit.status.phase = integrationKitPhaseBuildSubmitted)
    (absent : store.builds.get name = none) (env : Environment) (catalog : CamelCatalog)
    (spec : IntegrationKitSpec) :
    ∃ events next, Exec (reconcile name) store events (.ok ()) next ∧
      events.all Event.healthy = true ∧ events.any Event.accepted = true ∧
      next.builds.get name = some (withResourceVersion (buildAction.ownedBuild { kit with spec := spec }
        { env with camelCatalog := some catalog } catalog) (store.revision + 1)) ∧
      next.kits = store.kits ∧ next.integrations = store.integrations := by
  obtain rfl : key kit = name := Table.key_of_get stored
  obtain ⟨meta, kitSpec, ⟨phase, baseImage, image, publicImage, digest, artifacts, failure⟩⟩ := kit
  dsimp only at submitted
  subst submitted
  exact ⟨_, _, Exec.serve (Call.serve_getKit stored) <| Exec.serve (Call.serve_getBuild_absent absent) <|
    Exec.collaborate (.apply _) (.ok ({ env with camelCatalog := some catalog }, spec)) rfl <|
    Exec.serve (Call.serve_deleteBuild_absent absent) <|
    Exec.serve (Call.serve_createBuild absent) (Exec.returns _ _), rfl, rfl,
    Store.insertBuild_get absent, rfl, rfl⟩

/-- A pass on a submitted kit whose build runs marks the kit `BuildRunning`. -/
theorem reconcile_marks_running {name : NamespacedName} {store : Store} {kit : IntegrationKit}
    {build : Build} (stored : store.kits.get name = some kit)
    (submitted : kit.status.phase = integrationKitPhaseBuildSubmitted)
    (built : store.builds.get name = some build) (running : build.status.phase = buildPhaseRunning) :
    ∃ events next, Exec (reconcile name) store events (.ok ()) next ∧
      events.all Event.healthy = true ∧ events.any Event.accepted = true ∧
      (∃ kit', next.kits.get name = some kit' ∧
        kit'.status.phase = integrationKitPhaseBuildRunning ∧ kit'.spec = kit.spec ∧
        kit'.status.digest = kit.status.digest) ∧
      next.builds = store.builds ∧ next.integrations = store.integrations := by
  obtain rfl : key kit = name := Table.key_of_get stored
  have found : store.kits.get kit.metadata.namespacedName = some kit := stored
  obtain ⟨meta, kitSpec, ⟨phase, baseImage, image, publicImage, digest, artifacts, failure⟩⟩ := kit
  obtain ⟨buildMeta, buildSpec, ⟨buildPhase, buildBase, buildImage, buildPublic, buildArtifacts,
    buildFailure⟩⟩ := build
  dsimp only at submitted running found
  subst submitted running
  refine ⟨_, _, Exec.serve (Call.serve_getKit stored) <| Exec.serve (Call.serve_getBuild built) <|
    Exec.serve (Call.serve_updateKitStatus _ stored rfl) (Exec.returns _ _), rfl, rfl, ?_, rfl, rfl⟩
  simp [Store.setKit, Table.get_set_eq, found]

/-- A pass on a running kit whose build succeeded writes the kit `Ready` and
informs the integrations waiting for it. -/
theorem reconcile_readies {name : NamespacedName} {store : Store} {kit : IntegrationKit}
    {build : Build} (stored : store.kits.get name = some kit)
    (running : kit.status.phase = integrationKitPhaseBuildRunning)
    (built : store.builds.get name = some build) (succeeded : build.status.phase = buildPhaseSucceeded) :
    ∃ events next, Exec (reconcile name) store events (.ok ()) next ∧
      events.all Event.healthy = true ∧ events.any Event.accepted = true ∧
      next.kits.get name =
        some (withResourceVersion (buildAction.readyTarget kit build) (store.revision + 1)) ∧
      next.builds = store.builds ∧
      ∀ other, (next.integrations.get other).map Integration.withoutVersion =
        (store.integrations.get other).map (Integration.withoutVersion ∘
          informedBy [withResourceVersion (buildAction.readyTarget kit build) (store.revision + 1)]) := by
  obtain rfl : key kit = name := Table.key_of_get stored
  have found : store.kits.get kit.metadata.namespacedName = some kit := stored
  obtain ⟨meta, kitSpec, ⟨phase, baseImage, image, publicImage, digest, artifacts, failure⟩⟩ := kit
  obtain ⟨buildMeta, buildSpec, ⟨buildPhase, buildBase, buildImage, buildPublic, buildArtifacts,
    buildFailure⟩⟩ := build
  dsimp only at running succeeded found
  subst running succeeded
  obtain ⟨events, next, informing, healthy, kits, builds⟩ :=
    buildAction.informIntegrations_succeeds _ (store.setKit (buildAction.readyTarget _ _))
  refine ⟨_, next, Exec.serve (Call.serve_getKit stored) <| Exec.serve (Call.serve_getBuild built) <|
    Exec.serve (Call.serve_updateKitStatus _ stored rfl) <|
    Exec.bind (Exec.returns _ _) <| Exec.bind informing (Exec.returns _ _), ?_, rfl, ?_, builds, ?_⟩
  · rw [List.nil_append, List.append_nil]
    exact healthy
  · simp [kits, Store.setKit, Table.get_set_eq, found]
  · intro other
    rw [informIntegrations_informs informing other]
    rfl

/-! ## The run -/

/-- When nothing fails, the controller and the build executor take an unset kit
to `Ready`.  From a store holding the kit and no build of its name, with the
platform found, the traits composing `spec`, with no image, and the environment
`env` with the catalog `catalog`, and the digest `dgst`: a pass writes the kit
`BuildSubmitted`, a pass creates its build, the executor starts the build, a
pass marks the kit `BuildRunning`, the executor ends the build with `finished`,
and a pass writes the kit `Ready`, with the composed spec, the digest, the
images of the build and its artifacts without their location, and sets every
integration waiting for it to
`ResolvingKit`.  No call of the four passes fails, and each pass writes: the
bound of `healthy_passes_progress` is reached. -/
theorem unset_kit_gets_ready (name : NamespacedName) {store : Store} {kit : IntegrationKit}
    (stored : store.kits.get name = some kit) (unset : kit.status.phase = integrationKitPhaseNone)
    (absent : store.builds.get name = none) (env : Environment) (catalog : CamelCatalog)
    (spec : IntegrationKitSpec) (fromSource : spec.image = "") (dgst : String)
    (started finished : BuildStatus) (startedRunning : started.phase = buildPhaseRunning)
    (succeeded : finished.phase = buildPhaseSucceeded) :
    ∃ first second third fourth final kit' build,
      Run name store [.pass first (.ok ()), .pass second (.ok ()), .executor started,
        .pass third (.ok ()), .executor finished, .pass fourth (.ok ())] final ∧
      (∀ events ∈ [first, second, third, fourth],
        events.all Event.healthy = true ∧ events.any Event.accepted = true) ∧
      final.kits.get name = some kit' ∧ kit'.status.phase = integrationKitPhaseReady ∧
      kit'.spec = spec ∧ kit'.status.digest = dgst ∧ kit'.status.baseImage = finished.baseImage ∧
      kit'.status.image = finished.image ∧ kit'.status.publicImage = finished.publicImage ∧
      kit'.status.artifacts = finished.artifacts.map (fun artifact =>
        { id := artifact.id, location := "", target := artifact.target }) ∧
      final.builds.get name = some build ∧ build.status = finished ∧
      build.spec.camelVersion = catalog.version ∧ build.spec.runtimeVersion = env.runtimeVersion ∧
      ∀ other, (final.integrations.get other).map Integration.withoutVersion =
        (store.integrations.get other).map (Integration.withoutVersion ∘ informedBy [kit']) := by
  obtain ⟨first, submitting, submittedPass, healthy₁, writes₁,
    ⟨submittedKit, submittedStored, submitted, composed, digested⟩, keptBuilds, keptIntegrations₁⟩ :=
    reconcile_submits_unset stored unset env catalog spec dgst fromSource
  obtain ⟨second, creating, creatingPass, healthy₂, writes₂, created, keptKits₂, keptIntegrations₂⟩ :=
    reconcile_creates_build submittedStored submitted (by rw [keptBuilds]; exact absent) env catalog
      spec
  obtain ⟨starting, start, keptKits₃, keptIntegrations₃, startedBuild⟩ :=
    Store.writeBuildStatus_held created started
  obtain ⟨third, marking, markingPass, healthy₃, writes₃,
    ⟨runningKit, runningStored, running, keptSpec, keptDigest⟩, keptBuilds₄, keptIntegrations₄⟩ :=
    reconcile_marks_running (by rw [keptKits₃, keptKits₂]; exact submittedStored) submitted
      startedBuild startedRunning
  obtain ⟨finishing, finish, keptKits₅, keptIntegrations₅, finishedBuild⟩ :=
    Store.writeBuildStatus_held (by rw [keptBuilds₄]; exact startedBuild) finished
  obtain ⟨fourth, final, readyPass, healthy₄, writes₄, readyStored, keptBuilds₆, informed⟩ :=
    reconcile_readies (by rw [keptKits₅]; exact runningStored) running finishedBuild succeeded
  refine ⟨first, second, third, fourth, final, _, _,
    .cons (.pass submittedPass) <| .cons (.pass creatingPass) <| .cons (.executor _ start) <|
      .cons (.pass markingPass) <| .cons (.executor _ finish) <| .cons (.pass readyPass) (.nil _),
    ?_, readyStored, rfl, keptSpec.trans composed, keptDigest.trans digested, rfl, rfl, rfl, rfl,
    by rw [keptBuilds₆]; exact finishedBuild, rfl, rfl, rfl, fun other => ?_⟩
  · intro events mem
    simp only [List.mem_cons, List.mem_singleton, List.not_mem_nil, or_false] at mem
    rcases mem with rfl | rfl | rfl | rfl
    exacts [⟨healthy₁, writes₁⟩, ⟨healthy₂, writes₂⟩, ⟨healthy₃, writes₃⟩, ⟨healthy₄, writes₄⟩]
  · rw [informed other, keptIntegrations₅, keptIntegrations₄, keptIntegrations₃, keptIntegrations₂,
      keptIntegrations₁]

/-- An unset kit, in a store where an integration waits for it. -/
def unsetKit : IntegrationKit :=
  { metadata := { «namespace» := "default", name := "example" } }

@[inherit_doc unsetKit]
def unsetStore : Store :=
  (Store.empty.insertKit unsetKit).insertIntegration waitingIntegration

/-- How the build ends: it names a base, an image and a public image, and reports
an artifact with its location in the builder. -/
def finishedStatus : BuildStatus :=
  { phase := buildPhaseSucceeded, baseImage := "base:1", image := "example:1",
    publicImage := "registry/example:1",
    artifacts := [{ id := "a", location := "/tmp/a", target := "t" }] }

theorem unsetKit_gets_ready :
    unsetStore.kits.get unsetKit.metadata.namespacedName = some (withResourceVersion unsetKit 1) ∧
      (withResourceVersion unsetKit 1).status.phase = integrationKitPhaseNone ∧
      unsetStore.builds.get unsetKit.metadata.namespacedName = none ∧
      ({} : IntegrationKitSpec).image = "" ∧
      ({ phase := buildPhaseRunning } : BuildStatus).phase = buildPhaseRunning ∧
      finishedStatus.phase = buildPhaseSucceeded ∧
      ∃ first second third fourth final kit' build,
        Run unsetKit.metadata.namespacedName unsetStore [.pass first (.ok ()), .pass second (.ok ()),
          .executor { phase := buildPhaseRunning }, .pass third (.ok ()),
          .executor finishedStatus, .pass fourth (.ok ())] final ∧
        (∀ events ∈ [first, second, third, fourth],
          events.all Event.healthy = true ∧ events.any Event.accepted = true) ∧
        final.kits.get unsetKit.metadata.namespacedName = some kit' ∧
        kit'.status.phase = integrationKitPhaseReady ∧ kit'.spec = {} ∧ kit'.status.digest = "sha" ∧
        kit'.status.baseImage = "base:1" ∧ kit'.status.image = "example:1" ∧
        kit'.status.publicImage = "registry/example:1" ∧
        kit'.status.artifacts = [{ id := "a", location := "", target := "t" }] ∧
        final.builds.get unsetKit.metadata.namespacedName = some build ∧
        build.status = finishedStatus ∧
        build.spec.camelVersion = "1.0.0" ∧ build.spec.runtimeVersion = "" ∧
        ∀ other, (final.integrations.get other).map Integration.withoutVersion =
          (unsetStore.integrations.get other).map
            (Integration.withoutVersion ∘ informedBy [kit']) :=
  have stored : unsetStore.kits.get unsetKit.metadata.namespacedName =
      some (withResourceVersion unsetKit 1) := rfl
  ⟨stored, rfl, rfl, rfl, rfl, rfl,
    unset_kit_gets_ready _ stored rfl rfl {} ⟨"1.0.0"⟩ {} rfl "sha" { phase := buildPhaseRunning }
      finishedStatus rfl rfl⟩

end CamelK
