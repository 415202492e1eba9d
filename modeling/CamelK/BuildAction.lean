import CamelK.InitializeAction

/-!
# The build action

`buildAction` drives a kit through `BuildSubmitted` and `BuildRunning`.  While
submitted, it makes sure a build is in flight: it fetches the kit's build and,
when there is none or the last one ended, composes the kit, deletes whatever
build is left and creates a new one owned by the kit; once it sees the build
running, it moves the kit to `BuildRunning`.  While running, it copies the
outcome of the build into the kit: the images and the artifacts, without their
location, on success, then wakes the integrations waiting for the kit; the
failure on error.
-/

namespace CamelK

open Resource Prog

/-- `metav1.NewControllerRef` for a kit. -/
def newControllerRef (owner : IntegrationKit) : OwnerReference :=
  ⟨"IntegrationKit", owner.metadata.name, true⟩

/-- `controllerutil.SetControllerReference` for a kit owning a build.  Its loop
over the build's owner references fails at the first controller that is not
the kit, and names it; otherwise the last reference to the kit is replaced by
the controller reference, or that reference is appended. -/
def setControllerReference (owner : IntegrationKit) (object : Build) : Except Error Build :=
  let ref := newControllerRef owner
  let refers (other : OwnerReference) : Bool := other.kind == ref.kind && other.name == ref.name
  let existing := object.metadata.ownerReferences
  match existing.find? fun other => !refers other && other.controller with
  | some controller =>
      .error (.new ("Object " ++ object.metadata.namespace ++ "/" ++ object.metadata.name ++
        " is already owned by another " ++ controller.kind ++ " controller " ++ controller.name))
  | none =>
      let references :=
        match (existing.enum.filter fun entry => refers entry.2).getLast? with
        | some (index, _) => existing.set index ref
        | none => existing ++ [ref]
      .ok { object with metadata.ownerReferences := references }

/-- `if err != nil && !k8serrors.IsNotFound(err)`: a missing object is no error. -/
def ignoreNotFound : Except Error Unit → Except Error Unit
  | .error err => if err.isNotFound then .ok () else .error err
  | .ok () => .ok ()

theorem ignoreNotFound_eq_ok {answer : Except Error Unit} (ignored : ignoreNotFound answer = .ok ()) :
    answer = .ok () ∨ ∃ err, answer = .error err ∧ err.reason = .notFound := by
  rcases answer with err | ⟨⟩
  · simp only [ignoreNotFound] at ignored
    split at ignored
    · rename_i notFound
      exact .inr ⟨err, rfl, by simpa using notFound⟩
    · cases ignored
  · exact .inl rfl

theorem ignoreNotFound_eq_error {answer : Except Error Unit} {err : Error}
    (ignored : ignoreNotFound answer = .error err) :
    answer = .error err ∧ err.reason ≠ .notFound := by
  rcases answer with other | ⟨⟩
  · simp only [ignoreNotFound] at ignored
    split at ignored
    · cases ignored
    · rename_i transient
      cases ignored
      exact ⟨rfl, by simpa using transient⟩
  · cases ignored

namespace buildAction

def canHandle (kit : IntegrationKit) : Bool :=
  kit.status.phase == integrationKitPhaseBuildSubmitted ||
    kit.status.phase == integrationKitPhaseBuildRunning

/-- The build `handleBuildSubmitted` submits for a composed kit (lines 87 to 105). -/
def newBuild (kit : IntegrationKit) (env : Environment) (catalog : CamelCatalog) : Build where
  metadata := { «namespace» := kit.metadata.namespace, name := kit.metadata.name }
  spec :=
    { meta := kit.metadata
      camelVersion := catalog.version
      runtimeVersion := env.runtimeVersion
      platform := env.platform.spec
      dependencies := kit.spec.dependencies
      steps := stepIDsFor env.steps
      buildDir := env.buildDir }

/-- Delete-then-create of the build (lines 112 to 120); the build as the store
wrote its resource version back. -/
def replaceBuild (build : Build) : Prog (Except Error Build) := do
  match ignoreNotFound (← Client.deleteBuild build) with
  | .error err => pure (.error (err.wrap "cannot delete build"))
  | .ok () =>
      match ← Client.createBuild build with
      | .error err => pure (.error (err.wrap "cannot create build"))
      | .ok version => pure (.ok (withResourceVersion build version))

/-- Lines 78 to 120 of `handleBuildSubmitted`: compose the kit and submit a new
build owned by it; the kit as the traits left it, and the new build. -/
def recreateBuild (kit : IntegrationKit) : Prog (Except Error (IntegrationKit × Build)) := do
  match ← traitApply kit with
  | .error err => pure (.error err)
  | .ok (env, spec) =>
      let kit := { kit with spec := spec }
      match env.camelCatalog with
      | none => pure (.error (.new "undefined camel catalog"))
      | some catalog =>
          match setControllerReference kit (newBuild kit env catalog) with
          | .error err => pure (.error err)
          | .ok build =>
              match ← replaceBuild build with
              | .error err => pure (.error err)
              | .ok build => pure (.ok (kit, build))

/-- Lines 123 to 132 of `handleBuildSubmitted`: move the kit to `BuildRunning`
once its build runs. -/
def markBuildRunning (kit : IntegrationKit) (build : Build) : Prog (Except Error Unit) :=
  if build.status.phase = buildPhaseRunning then do
    let written ← Client.updateKitStatus
      { kit with status.phase := integrationKitPhaseBuildRunning }
    pure (written.map fun _ => ())
  else pure (.ok ())

/-- Lines 73 to 132 of `handleBuildSubmitted`, once the build is fetched;
`notFound` records that the fetch answered NotFound, `build` being then the
empty build. -/
def ensureBuild (kit : IntegrationKit) (notFound : Bool) (build : Build) :
    Prog (Except Error Unit) := do
  if notFound ∨ build.status.phase = buildPhaseError ∨
      build.status.phase = buildPhaseInterrupted ∨ build.status.phase = buildPhaseSucceeded then
    match ← recreateBuild kit with
    | .error err => pure (.error err)
    | .ok (kit, build) => markBuildRunning kit build
  else markBuildRunning kit build

def handleBuildSubmitted (kit : IntegrationKit) : Prog (Except Error Unit) := do
  match ← Client.getBuild kit.metadata.namespacedName with
  | .error err => if err.isNotFound then ensureBuild kit true {} else pure (.error err)
  | .ok build => ensureBuild kit false build

/-- The loop of `informIntegrations` over the listed integrations. -/
def informEach (kit : IntegrationKit) : List Integration → Prog (Except Error Unit)
  | [] => pure (.ok ())
  | integration :: rest =>
      if integration.status.kit ≠ kit.metadata.name then informEach kit rest
      else do
        match ← Client.updateIntegrationStatus
            { integration with status.phase := integrationPhaseResolvingKit } with
        | .error err => pure (.error err)
        | .ok _ => informEach kit rest

/-- Triggers the processing of all the integrations waiting for this kit. -/
def informIntegrations (kit : IntegrationKit) : Prog (Except Error Unit) := do
  match ← Client.listIntegrations kit.metadata.namespace with
  | .error err => pure (.error err)
  | .ok items => informEach kit items

/-- The kit status written when the build succeeded (lines 160 to 173): the
images of the build, and its artifacts without their location. -/
def readyTarget (kit : IntegrationKit) (build : Build) : IntegrationKit :=
  { kit with
    status.baseImage := build.status.baseImage
    status.image := build.status.image
    status.publicImage := build.status.publicImage
    status.phase := integrationKitPhaseReady
    status.artifacts := build.status.artifacts.map fun artifact =>
      { id := artifact.id, location := "", target := artifact.target } }

/-- The kit status written when the build failed (lines 199 and 200). -/
def errorTarget (kit : IntegrationKit) (build : Build) : IntegrationKit :=
  { kit with status.failure := build.status.failure, status.phase := integrationKitPhaseError }

@[simp]
theorem readyTarget_metadata (kit : IntegrationKit) (build : Build) :
    (readyTarget kit build).metadata = kit.metadata :=
  rfl

@[simp]
theorem readyTarget_spec (kit : IntegrationKit) (build : Build) :
    (readyTarget kit build).spec = kit.spec :=
  rfl

@[simp]
theorem readyTarget_phase (kit : IntegrationKit) (build : Build) :
    (readyTarget kit build).status.phase = integrationKitPhaseReady :=
  rfl

@[simp]
theorem errorTarget_phase (kit : IntegrationKit) (build : Build) :
    (errorTarget kit build).status.phase = integrationKitPhaseError :=
  rfl

@[simp]
theorem errorTarget_metadata (kit : IntegrationKit) (build : Build) :
    (errorTarget kit build).metadata = kit.metadata :=
  rfl

@[simp]
theorem errorTarget_spec (kit : IntegrationKit) (build : Build) :
    (errorTarget kit build).spec = kit.spec :=
  rfl

/-- The conflict `handleBuildRunning` reports when the kit left `BuildRunning`;
the two branches word it differently. -/
def phaseMismatch (wording : String) (build : Build) (kit : IntegrationKit) : Error :=
  .new ("found kit " ++ build.spec.meta.name ++ wording ++ " (expectd=" ++
    integrationKitPhaseBuildRunning ++ ", found=" ++ kit.status.phase ++ ")")

/-- The `BuildPhaseSucceeded` case of `handleBuildRunning` (lines 148 to 183). -/
def buildSucceeded (kit : IntegrationKit) (build : Build) : Prog (Except Error Unit) := do
  let target := kit
  if target.status.phase ≠ integrationKitPhaseBuildRunning then
    pure (.error (phaseMismatch " not in the expected phase" build target))
  else
    let target := readyTarget target build
    match ← Client.updateKitStatus target with
    | .error err => pure (.error err)
    | .ok version =>
        match ← informIntegrations (withResourceVersion target version) with
        | .error err => pure (.error err)
        | .ok () => pure (.ok ())

/-- The `BuildPhaseError, BuildPhaseInterrupted` case of `handleBuildRunning`
(lines 186 to 204). -/
def buildFailed (kit : IntegrationKit) (build : Build) : Prog (Except Error Unit) := do
  let target := kit
  if target.status.phase ≠ integrationKitPhaseBuildRunning then
    pure (.error (phaseMismatch " not the an expected phase" build target))
  else
    let written ← Client.updateKitStatus (errorTarget target build)
    pure (written.map fun _ => ())

def handleBuildRunning (kit : IntegrationKit) : Prog (Except Error Unit) := do
  match ← Client.getBuild kit.metadata.namespacedName with
  | .error err => pure (.error err)
  | .ok build =>
      if build.status.phase = buildPhaseRunning then pure (.ok ())
      else if build.status.phase = buildPhaseSucceeded then buildSucceeded kit build
      else if build.status.phase = buildPhaseError ∨ build.status.phase = buildPhaseInterrupted then
        buildFailed kit build
      else pure (.ok ())

def handle (kit : IntegrationKit) : Prog (Except Error Unit) :=
  if kit.status.phase = integrationKitPhaseBuildSubmitted then handleBuildSubmitted kit
  else if kit.status.phase = integrationKitPhaseBuildRunning then handleBuildRunning kit
  else pure (.ok ())

/-! ## The paths of the build action -/

/-- The new build once `SetControllerReference` made the kit its controller. -/
def ownedBuild (kit : IntegrationKit) (env : Environment) (catalog : CamelCatalog) : Build :=
  { newBuild kit env catalog with metadata.ownerReferences := [newControllerRef kit] }

@[simp]
theorem ownedBuild_namespacedName (kit : IntegrationKit) (env : Environment)
    (catalog : CamelCatalog) :
    (ownedBuild kit env catalog).metadata.namespacedName = kit.metadata.namespacedName :=
  rfl

@[simp]
theorem ownedBuild_status (kit : IntegrationKit) (env : Environment) (catalog : CamelCatalog) :
    (ownedBuild kit env catalog).status = {} :=
  rfl

theorem setControllerReference_newBuild (kit : IntegrationKit) (env : Environment)
    (catalog : CamelCatalog) :
    setControllerReference kit (newBuild kit env catalog) = .ok (ownedBuild kit env catalog) :=
  rfl

/-- The answers to the fetch on which `handleBuildSubmitted` submits a new build
(line 73): NotFound, or a build that ended. -/
def Resubmits : Except Error Build → Prop
  | .error err => err.reason = .notFound
  | .ok build => build.status.phase = buildPhaseError ∨
      build.status.phase = buildPhaseInterrupted ∨ build.status.phase = buildPhaseSucceeded

theorem recreateBuild_path_cases {kit : IntegrationKit} {events : List Event}
    {result : Except Error (IntegrationKit × Build)} (path : Path (recreateBuild kit) events result) :
    (∃ err, events = [⟨.apply kit, .error err⟩] ∧ result = .error err) ∨
      (∃ env spec, env.camelCatalog = none ∧ events = [⟨.apply kit, .ok (env, spec)⟩] ∧
        result = .error (.new "undefined camel catalog")) ∨
      (∃ env spec catalog deleted err, env.camelCatalog = some catalog ∧
        ignoreNotFound deleted = .error err ∧
        events = [⟨.apply kit, .ok (env, spec)⟩,
          ⟨.deleteBuild (ownedBuild { kit with spec := spec } env catalog), deleted⟩] ∧
        result = .error (err.wrap "cannot delete build")) ∨
      (∃ env spec catalog deleted err, env.camelCatalog = some catalog ∧
        ignoreNotFound deleted = .ok () ∧
        events = [⟨.apply kit, .ok (env, spec)⟩,
          ⟨.deleteBuild (ownedBuild { kit with spec := spec } env catalog), deleted⟩,
          ⟨.createBuild (ownedBuild { kit with spec := spec } env catalog), .error err⟩] ∧
        result = .error (err.wrap "cannot create build")) ∨
      (∃ env spec catalog deleted version, env.camelCatalog = some catalog ∧
        ignoreNotFound deleted = .ok () ∧
        events = [⟨.apply kit, .ok (env, spec)⟩,
          ⟨.deleteBuild (ownedBuild { kit with spec := spec } env catalog), deleted⟩,
          ⟨.createBuild (ownedBuild { kit with spec := spec } env catalog), .ok version⟩] ∧
        result = .ok ({ kit with spec := spec },
          withResourceVersion (ownedBuild { kit with spec := spec } env catalog) version)) := by
  simp only [recreateBuild, replaceBuild, traitApply, Client.deleteBuild, Client.createBuild,
    setControllerReference_newBuild, bind_eq, call_bind, done_bind, pure_eq, path_call,
    path_done, exists_except] at path
  rcases path with ⟨err, _, rfl, rfl, rfl⟩ | ⟨⟨env, spec⟩, _, rfl, path⟩
  · exact .inl ⟨err, rfl, rfl⟩
  · simp only at path
    split at path
    · obtain ⟨rfl, rfl⟩ := path_done.mp path
      exact .inr (.inl ⟨env, spec, ‹_›, rfl, rfl⟩)
    · rename_i catalog found
      simp only [path_call] at path
      obtain ⟨deleted, _, rfl, path⟩ := path
      split at path
      · obtain ⟨rfl, rfl⟩ := path_done.mp path
        exact .inr (.inr (.inl ⟨env, spec, catalog, deleted, _, found, ‹_›, rfl, rfl⟩))
      · simp only [call_bind, done_bind, path_call, path_done, exists_except] at path
        rcases path with ⟨err, _, rfl, rfl, rfl⟩ | ⟨version, _, rfl, rfl, rfl⟩
        · exact .inr (.inr (.inr (.inl ⟨env, spec, catalog, deleted, err, found, ‹_›, rfl, rfl⟩)))
        · exact .inr (.inr (.inr (.inr ⟨env, spec, catalog, deleted, version, found, ‹_›, rfl,
            rfl⟩)))

theorem markBuildRunning_path_cases {kit : IntegrationKit} {build : Build}
    {events : List Event} {result : Except Error Unit}
    (path : Path (markBuildRunning kit build) events result) :
    (build.status.phase = buildPhaseRunning ∧ ∃ answer, events =
        [⟨.updateKitStatus { kit with status.phase := integrationKitPhaseBuildRunning }, answer⟩] ∧
        result = answer.map fun _ => ()) ∨
      (build.status.phase ≠ buildPhaseRunning ∧ events = [] ∧ result = .ok ()) := by
  unfold markBuildRunning at path
  split at path
  · simp only [Client.updateKitStatus, bind_eq, call_bind, done_bind, pure_eq, path_call,
      path_done] at path
    obtain ⟨answer, _, rfl, rfl, rfl⟩ := path
    exact .inl ⟨‹_›, answer, rfl, rfl⟩
  · obtain ⟨rfl, rfl⟩ := path_done.mp path
    exact .inr ⟨‹_›, rfl, rfl⟩

/-- A build `recreateBuild` submits is new: its status is empty. -/
theorem recreateBuild_path_status {kit kit' : IntegrationKit} {build : Build}
    {events : List Event} (path : Path (recreateBuild kit) events (.ok (kit', build))) :
    build.status = {} := by
  rcases recreateBuild_path_cases path with ⟨_, _, ⟨⟩⟩ | ⟨_, _, _, _, ⟨⟩⟩ |
    ⟨_, _, _, _, _, _, _, _, ⟨⟩⟩ | ⟨_, _, _, _, _, _, _, _, ⟨⟩⟩ |
    ⟨_, _, _, _, _, _, _, _, result⟩
  cases result
  rfl

theorem ensureBuild_path_cases {kit : IntegrationKit} {notFound : Bool} {build : Build}
    {events : List Event} {result : Except Error Unit}
    (path : Path (ensureBuild kit notFound build) events result) :
    ((notFound ∨ build.status.phase = buildPhaseError ∨ build.status.phase = buildPhaseInterrupted ∨
        build.status.phase = buildPhaseSucceeded) ∧
        ∃ recreated, Path (recreateBuild kit) events recreated ∧
          result = recreated.map fun _ => ()) ∨
      (¬(notFound ∨ build.status.phase = buildPhaseError ∨
          build.status.phase = buildPhaseInterrupted ∨ build.status.phase = buildPhaseSucceeded) ∧
        Path (markBuildRunning kit build) events result) := by
  unfold ensureBuild at path
  split at path
  · obtain ⟨first, recreated, second, rfl, recreating, path⟩ := path_bind.mp path
    refine .inl ⟨‹_›, recreated, ?_⟩
    rcases recreated with err | ⟨kit', build'⟩
    · obtain ⟨rfl, rfl⟩ := path_done.mp path
      exact ⟨by simpa using recreating, rfl⟩
    · rcases markBuildRunning_path_cases path with ⟨running, -⟩ | ⟨-, rfl, rfl⟩
      · rw [recreateBuild_path_status recreating] at running
        exact absurd running (by decide)
      · exact ⟨by simpa using recreating, rfl⟩
  · exact .inr ⟨‹_›, path⟩

theorem handleBuildSubmitted_path_cases {kit : IntegrationKit} {events : List Event}
    {result : Except Error Unit} (path : Path (handleBuildSubmitted kit) events result) :
    ∃ got rest, events = ⟨.getBuild kit.metadata.namespacedName, got⟩ :: rest ∧
      ((∃ err, got = .error err ∧ err.reason ≠ .notFound ∧ rest = [] ∧ result = .error err) ∨
        (Resubmits got ∧ ∃ recreated, Path (recreateBuild kit) rest recreated ∧
          result = recreated.map fun _ => ()) ∨
        (∃ build, got = .ok build ∧ ¬Resubmits got ∧
          Path (markBuildRunning kit build) rest result)) := by
  simp only [handleBuildSubmitted, Client.getBuild, bind_eq, call_bind, done_bind,
    path_call] at path
  obtain ⟨got, rest, rfl, path⟩ := path
  refine ⟨got, rest, rfl, ?_⟩
  rcases got with err | build
  · simp only at path
    split at path
    · rename_i notFound
      rcases ensureBuild_path_cases path with ⟨-, recreated, recreating, rfl⟩ | ⟨stays, -⟩
      · exact .inr (.inl ⟨by simpa [Resubmits] using notFound, recreated, recreating, rfl⟩)
      · simp at stays
    · rename_i failed
      obtain ⟨rfl, rfl⟩ := path_done.mp path
      exact .inl ⟨err, rfl, by simpa using failed, rfl, rfl⟩
  · rcases ensureBuild_path_cases path with ⟨resubmit, recreated, recreating, rfl⟩ |
      ⟨stays, following⟩
    · exact .inr (.inl ⟨by simpa [Resubmits] using resubmit, recreated, recreating, rfl⟩)
    · exact .inr (.inr ⟨build, rfl, by simpa [Resubmits] using stays, following⟩)

/-- The updates `informEach` issues: to the listed integrations waiting for the
kit, in list order, each set to `ResolvingKit`, all of them when every update
succeeds, and up to the first failure otherwise. -/
theorem informEach_path_cases {kit : IntegrationKit} {items : List Integration}
    {events : List Event} {result : Except Error Unit}
    (path : Path (informEach kit items) events result) :
    (events.map Sigma.fst =
        (items.filter fun integration => integration.status.kit = kit.metadata.name).map
          (fun integration => .updateIntegrationStatus
            { integration with status.phase := integrationPhaseResolvingKit }) ∧
        (∀ event ∈ events, event.error? = none) ∧ result = .ok ()) ∨
      (∃ failed err,
        failed < (items.filter fun integration => integration.status.kit = kit.metadata.name).length ∧
        events.map Sigma.fst =
          ((items.filter fun integration => integration.status.kit = kit.metadata.name).take
            (failed + 1)).map (fun integration => .updateIntegrationStatus
              { integration with status.phase := integrationPhaseResolvingKit }) ∧
        (∀ event ∈ events.dropLast, event.error? = none) ∧
        events.getLast?.bind Event.error? = some err ∧ result = .error err) := by
  induction items generalizing events with
  | nil =>
      obtain ⟨rfl, rfl⟩ := path_done.mp path
      exact .inl ⟨rfl, by simp, rfl⟩
  | cons integration rest ih =>
      unfold informEach at path
      split at path
      · rename_i other
        simpa [List.filter_cons, other] using ih path
      · rename_i waiting
        simp only [Client.updateIntegrationStatus, bind_eq, call_bind, done_bind, path_call,
          exists_except] at path
        have keep : (integration :: rest).filter
            (fun integration => integration.status.kit = kit.metadata.name) =
            integration :: rest.filter
              (fun integration => integration.status.kit = kit.metadata.name) := by
          simp [List.filter_cons, not_not.mp waiting]
        rw [keep]
        rcases path with ⟨err, _, rfl, path⟩ | ⟨version, tail, rfl, path⟩
        · obtain ⟨rfl, rfl⟩ := path_done.mp path
          exact .inr ⟨0, err, by simp, rfl, by simp, rfl, rfl⟩
        · rcases ih path with ⟨calls, succeeded, rfl⟩ |
            ⟨failed, err, bound, calls, succeeded, last, rfl⟩
          · refine .inl ⟨by simp [calls], ?_, rfl⟩
            simpa [Event.error?] using succeeded
          · obtain ⟨next, tail, rfl⟩ : ∃ next tail', tail = next :: tail' := by
              cases tail with
              | nil => simp at last
              | cons next tail => exact ⟨next, tail, rfl⟩
            refine .inr ⟨failed + 1, err, by simpa using bound, by simp [calls], ?_, ?_, rfl⟩
            · simpa [Event.error?] using succeeded
            · simpa using last

theorem informIntegrations_path_cases {kit : IntegrationKit} {events : List Event}
    {result : Except Error Unit} (path : Path (informIntegrations kit) events result) :
    ∃ listed rest, events = ⟨.listIntegrations kit.metadata.namespace, listed⟩ :: rest ∧
      ((∃ err, listed = .error err ∧ rest = [] ∧ result = .error err) ∨
        ∃ items, listed = .ok items ∧ Path (informEach kit items) rest result) := by
  simp only [informIntegrations, Client.listIntegrations, bind_eq, call_bind, done_bind,
    path_call] at path
  obtain ⟨listed, rest, rfl, path⟩ := path
  refine ⟨listed, rest, rfl, ?_⟩
  rcases listed with err | items
  · obtain ⟨rfl, rfl⟩ := path_done.mp path
    exact .inl ⟨err, rfl, rfl, rfl⟩
  · exact .inr ⟨items, rfl, path⟩

theorem buildSucceeded_path_cases {kit : IntegrationKit} {build : Build} {events : List Event}
    {result : Except Error Unit} (path : Path (buildSucceeded kit build) events result) :
    (kit.status.phase ≠ integrationKitPhaseBuildRunning ∧ events = [] ∧
        result = .error (phaseMismatch " not in the expected phase" build kit)) ∨
      (kit.status.phase = integrationKitPhaseBuildRunning ∧ ∃ err,
        events = [⟨.updateKitStatus (readyTarget kit build), .error err⟩] ∧ result = .error err) ∨
      (kit.status.phase = integrationKitPhaseBuildRunning ∧ ∃ version rest,
        events = ⟨.updateKitStatus (readyTarget kit build), .ok version⟩ :: rest ∧
        Path (informIntegrations (withResourceVersion (readyTarget kit build) version)) rest result) := by
  unfold buildSucceeded at path
  dsimp only at path
  split at path
  · obtain ⟨rfl, rfl⟩ := path_done.mp path
    exact .inl ⟨‹_›, rfl, rfl⟩
  · rename_i running
    simp only [Client.updateKitStatus, bind_eq, call_bind, done_bind, path_call,
      exists_except] at path
    rcases path with ⟨err, _, rfl, path⟩ | ⟨version, rest, rfl, path⟩
    · obtain ⟨rfl, rfl⟩ := path_done.mp path
      exact .inr (.inl ⟨not_not.mp running, err, rfl, rfl⟩)
    · obtain ⟨first, informed, second, rfl, informing, path⟩ := path_bind.mp path
      refine .inr (.inr ⟨not_not.mp running, version, first ++ second, rfl, ?_⟩)
      rcases informed with err | _ <;> obtain ⟨rfl, rfl⟩ := path_done.mp path <;>
        simpa using informing

theorem buildFailed_path_cases {kit : IntegrationKit} {build : Build} {events : List Event}
    {result : Except Error Unit} (path : Path (buildFailed kit build) events result) :
    (kit.status.phase ≠ integrationKitPhaseBuildRunning ∧ events = [] ∧
        result = .error (phaseMismatch " not the an expected phase" build kit)) ∨
      (kit.status.phase = integrationKitPhaseBuildRunning ∧ ∃ answer,
        events = [⟨.updateKitStatus (errorTarget kit build), answer⟩] ∧
        result = answer.map fun _ => ()) := by
  unfold buildFailed at path
  dsimp only at path
  split at path
  · obtain ⟨rfl, rfl⟩ := path_done.mp path
    exact .inl ⟨‹_›, rfl, rfl⟩
  · simp only [Client.updateKitStatus, bind_eq, call_bind, done_bind, pure_eq, path_call,
      path_done] at path
    obtain ⟨answer, _, rfl, rfl, rfl⟩ := path
    exact .inr ⟨not_not.mp ‹_›, answer, rfl, rfl⟩

theorem handleBuildRunning_path_cases {kit : IntegrationKit} {events : List Event}
    {result : Except Error Unit} (path : Path (handleBuildRunning kit) events result) :
    ∃ got rest, events = ⟨.getBuild kit.metadata.namespacedName, got⟩ :: rest ∧
      ((∃ err, got = .error err ∧ rest = [] ∧ result = .error err) ∨
        (∃ build, got = .ok build ∧ build.status.phase = buildPhaseSucceeded ∧
          Path (buildSucceeded kit build) rest result) ∨
        (∃ build, got = .ok build ∧
          (build.status.phase = buildPhaseError ∨ build.status.phase = buildPhaseInterrupted) ∧
          Path (buildFailed kit build) rest result) ∨
        (∃ build, got = .ok build ∧ build.status.phase ≠ buildPhaseSucceeded ∧
          build.status.phase ≠ buildPhaseError ∧ build.status.phase ≠ buildPhaseInterrupted ∧
          rest = [] ∧ result = .ok ())) := by
  simp only [handleBuildRunning, Client.getBuild, bind_eq, call_bind, done_bind,
    path_call] at path
  obtain ⟨got, rest, rfl, path⟩ := path
  refine ⟨got, rest, rfl, ?_⟩
  rcases got with err | build
  · obtain ⟨rfl, rfl⟩ := path_done.mp path
    exact .inl ⟨err, rfl, rfl, rfl⟩
  · simp only at path
    split at path
    · obtain ⟨rfl, rfl⟩ := path_done.mp path
      rename_i running
      refine .inr (.inr (.inr ⟨build, rfl, ?_, ?_, ?_, rfl, rfl⟩)) <;>
        rw [running] <;> decide
    · split at path
      · exact .inr (.inl ⟨build, rfl, ‹_›, path⟩)
      · split at path
        · exact .inr (.inr (.inl ⟨build, rfl, ‹_›, path⟩))
        · obtain ⟨rfl, rfl⟩ := path_done.mp path
          rename_i running succeeded failed
          exact .inr (.inr (.inr ⟨build, rfl, succeeded, fun same => failed (.inl same),
            fun same => failed (.inr same), rfl, rfl⟩))

theorem handle_path_cases {kit : IntegrationKit} {events : List Event}
    {result : Except Error Unit} (path : Path (handle kit) events result) :
    (kit.status.phase = integrationKitPhaseBuildSubmitted ∧
        Path (handleBuildSubmitted kit) events result) ∨
      (kit.status.phase = integrationKitPhaseBuildRunning ∧
        Path (handleBuildRunning kit) events result) ∨
      (kit.status.phase ≠ integrationKitPhaseBuildSubmitted ∧
        kit.status.phase ≠ integrationKitPhaseBuildRunning ∧ events = [] ∧ result = .ok ()) := by
  unfold handle at path
  split at path
  · exact .inl ⟨‹_›, path⟩
  · split at path
    · exact .inr (.inl ⟨‹_›, path⟩)
    · obtain ⟨rfl, rfl⟩ := path_done.mp path
      exact .inr (.inr ⟨‹_›, ‹_›, rfl, rfl⟩)

end buildAction

def newBuildAction : Action :=
  ⟨"build-submitted", buildAction.canHandle, buildAction.handle⟩

end CamelK
