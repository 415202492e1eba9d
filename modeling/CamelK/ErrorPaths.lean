import CamelK.IntegrationFanOut

/-!
# What a failed pass leaves behind

A pass that returns an error stops at its first failure.  This file states what
it may have written by then: the kit keeps the status it was read with, unless
the error came from `informIntegrations` after the `Ready` status was written;
it keeps its spec, unless the initialize action had written the composed one;
and the build stays, unless it was deleted and its replacement could not be
created.  It then states when a submitted kit with no build gets one: the fetch
answers NotFound and the other calls succeed, and the composed environment
has a Camel catalog, without which no build is created.  Then, that the build
held under a kit's name always has the kit as its controller.  Last, where the
error of a pass comes from: a call answered it, or it is the missing-catalog
error, or the wrapped failure of the Delete or the Create of the build; the
phase re-checks of the `BuildRunning` branch never fail.
-/

namespace CamelK

open Resource Prog

/-- The store never answers a creation with NotFound. -/
theorem Responds.createBuild_error {store next : Store} {build : Build} {err : Error}
    (responds : Responds store (.createBuild build) (.error err) next) :
    err.reason ≠ .notFound := by
  cases responds with
  | fail _ transient => exact transient
  | collaborate unserved => cases unserved
  | serve served =>
      simp only [Call.serve, Store.createBuild, Option.some.injEq] at served
      split at served <;> simp only [Store.answer, Prod.mk.injEq, reduceCtorEq, false_and,
        Except.error.injEq] at served
      obtain ⟨rfl, -⟩ := served
      nofun

/-- A pass that returned an error kept the kit's status, unless its
`informIntegrations` failed after the `Ready` status was written; kept the
kit's spec, unless the initialize action wrote the composed one; and kept the
build, unless it deleted it and failed to create the new one. -/
theorem reconcile_failed_pass {name : NamespacedName} {store next : Store} {events : List Event}
    {err : Error} {kit : IntegrationKit}
    (exec : Exec (reconcile name) store events (.error err) next)
    (stored : store.kits.get name = some kit) :
    ∃ kit', next.kits.get name = some kit' ∧
      (kit'.status = kit.status ∨
        ∃ build version inform, events = ⟨.getKit name, .ok kit⟩ :: ⟨.getBuild name, .ok build⟩ ::
            ⟨.updateKitStatus (buildAction.readyTarget kit build), .ok version⟩ :: inform ∧
          Path (buildAction.informIntegrations
            (withResourceVersion (buildAction.readyTarget kit build) version)) inform (.error err) ∧
          kit' = withResourceVersion (buildAction.readyTarget kit build) version) ∧
      (kit'.spec = kit.spec ∨ ∃ spec version,
        (⟨.updateKit { kit with spec := spec }, .ok version⟩ : Event) ∈ events ∧ kit'.spec = spec) ∧
      (next.builds.get name = store.builds.get name ∨ ∃ build failure,
        (⟨.deleteBuild build, .ok ()⟩ : Event) ∈ events ∧
        (⟨.createBuild build, .error failure⟩ : Event) ∈ events ∧ next.builds.get name = none) := by
  rcases reconcile_exec_cases exec with ⟨rfl, -⟩ | ⟨read, rest, stored', named, rfl, handler⟩
  · exact ⟨kit, stored, .inl rfl, .inl rfl, .inl rfl⟩
  cases stored.symm.trans stored'
  subst named
  rcases handler with ⟨-, handling⟩ | ⟨-, handling⟩ | ⟨-, handling⟩
  · rcases initializeAction.handle_exec_cases stored handling with ⟨rfl, -⟩ |
      ⟨env, spec, version, -, updated, builds, -, ⟨_, -, kits⟩ | ⟨⟨⟩, -⟩⟩
    · exact ⟨kit, stored, .inl rfl, .inl rfl, .inl rfl⟩
    · exact ⟨_, kits, .inl rfl, .inr ⟨spec, version, List.mem_cons_of_mem _ updated, rfl⟩,
        .inl (builds _)⟩
  · rcases buildAction.handleBuildSubmitted_exec_cases stored handling with ⟨rfl, -⟩ |
      ⟨_, env, spec, catalog, deleted, failure, -, -, -, -, removed, rfl, -, absent, kits, -⟩ |
      ⟨_, _, _, _, _, _, -, -, -, -, -, ⟨⟩, -⟩ | ⟨_, _, -, -, -, ⟨⟩, -⟩
    · exact ⟨kit, stored, .inl rfl, .inl rfl, .inl rfl⟩
    · refine ⟨kit, (kits _).trans stored, .inl rfl, .inl rfl, ?_⟩
      rcases removed with rfl | none
      · exact .inr ⟨buildAction.ownedBuild { kit with spec := spec } env catalog, failure,
          by simp, by simp, absent⟩
      · exact .inl (absent.trans none.symm)
  · rcases buildAction.handleBuildRunning_exec_cases stored handling with ⟨rfl, -⟩ |
      ⟨build, version, inform, -, -, -, rfl, informing, kits, builds, -⟩ |
      ⟨_, _, -, -, -, -, ⟨⟩, -⟩
    · exact ⟨kit, stored, .inl rfl, .inl rfl, .inl rfl⟩
    · exact ⟨_, kits, .inr ⟨build, version, inform, rfl, informing, rfl⟩, .inl (by simp),
        .inl (builds _)⟩

/-- The build action on a submitted kit with no build, when every failed call
answered NotFound and the composition succeeded with a Camel catalog, creates
the build, owned by the kit as its controller, and returns no error. -/
theorem buildAction.handle_creates_owned_build {store next : Store} {kit : IntegrationKit}
    {events : List Event} {result : Except Error Unit}
    (exec : Exec (buildAction.handle kit) store events result next)
    (submitted : kit.status.phase = integrationKitPhaseBuildSubmitted)
    (absent : store.builds.get kit.metadata.namespacedName = none)
    (onlyNotFound : ∀ event ∈ events, ∀ err, event.error? = some err → err.reason = .notFound)
    (composed : ∀ answer, (⟨.apply kit, answer⟩ : Event) ∈ events →
      ∃ env spec, answer = .ok (env, spec) ∧ env.camelCatalog.isSome) :
    result = .ok () ∧ ∃ build, next.builds.get kit.metadata.namespacedName = some build ∧
      build.metadata.ownerReferences = [newControllerRef kit] := by
  obtain ⟨path, responses⟩ := exec
  rcases buildAction.handle_path_cases path with ⟨-, path⟩ | ⟨running, -⟩ | ⟨notSubmitted, -⟩
  rotate_left
  · exact absurd (submitted.symm.trans running) (by decide)
  · exact absurd submitted notSubmitted
  obtain ⟨got, rest, rfl, cases⟩ := buildAction.handleBuildSubmitted_path_cases path
  obtain ⟨_, fetched, following⟩ := responses_cons.mp responses
  obtain ⟨same, storedOk, -⟩ := fetched.getBuild_answer
  subst same
  rcases cases with ⟨err, rfl, transient, -⟩ | ⟨-, recreated, recreating, rfl⟩ |
    ⟨build, rfl, -⟩
  · exact absurd (onlyNotFound _ (List.mem_cons_self _ _) err rfl) transient
  · rcases buildAction.recreateBuild_path_cases recreating with ⟨err, rfl, -⟩ |
      ⟨env, spec, noCatalog, rfl, -⟩ | ⟨env, spec, catalog, deleted, err, -, ignored, rfl, -⟩ |
      ⟨env, spec, catalog, deleted, err, -, -, rfl, -⟩ |
      ⟨env, spec, catalog, deleted, version, -, -, rfl, rfl⟩
    · obtain ⟨_, _, failed, -⟩ := composed (.error err) (by simp)
      simp at failed
    · obtain ⟨_, _, answered, catalog⟩ := composed (.ok (env, spec)) (by simp)
      simp only [Except.ok.injEq, Prod.mk.injEq] at answered
      obtain ⟨rfl, -⟩ := answered
      simp [noCatalog] at catalog
    · obtain ⟨rfl, transient⟩ := ignoreNotFound_eq_error ignored
      exact absurd (onlyNotFound ⟨.deleteBuild (buildAction.ownedBuild { kit with spec := spec }
        env catalog), .error err⟩ (by simp) err rfl) transient
    · obtain ⟨_, -, following⟩ := responses_cons.mp following
      obtain ⟨_, -, following⟩ := responses_cons.mp following
      obtain ⟨_, created, -⟩ := responses_cons.mp following
      exact absurd (onlyNotFound ⟨.createBuild (buildAction.ownedBuild { kit with spec := spec }
        env catalog), .error err⟩ (by simp) err rfl) created.createBuild_error
    · refine ⟨rfl, withResourceVersion (buildAction.ownedBuild { kit with spec := spec } env catalog)
        version, ?_, rfl⟩
      rw [following.builds_get]
      rcases deleted with _ | ⟨⟩ <;> simp [Event.buildWrite]
  · simp [storedOk build rfl] at absent

/-- The build action on a submitted kit whose traits composed an environment
with no Camel catalog fails with "undefined camel catalog" right after the
fetch and the composition: it sends no deletion and no creation, so the store,
and the build under the kit's name, stay as they were. -/
theorem buildAction.handle_without_catalog {store next : Store} {kit : IntegrationKit}
    {events : List Event} {result : Except Error Unit}
    (exec : Exec (buildAction.handle kit) store events result next)
    (submitted : kit.status.phase = integrationKitPhaseBuildSubmitted) {env : Environment}
    {spec : IntegrationKitSpec} (composed : (⟨.apply kit, .ok (env, spec)⟩ : Event) ∈ events)
    (noCatalog : env.camelCatalog = none) :
    result = .error (.new "undefined camel catalog") ∧ next = store ∧
      ∃ got, events =
        [⟨.getBuild kit.metadata.namespacedName, got⟩, ⟨.apply kit, .ok (env, spec)⟩] := by
  obtain ⟨path, responses⟩ := exec
  rcases buildAction.handle_path_cases path with ⟨-, path⟩ | ⟨running, -⟩ | ⟨notSubmitted, -⟩
  rotate_left
  · exact absurd (submitted.symm.trans running) (by decide)
  · exact absurd submitted notSubmitted
  obtain ⟨got, rest, rfl, cases⟩ := buildAction.handleBuildSubmitted_path_cases path
  rcases cases with ⟨err, rfl, -, rfl, rfl⟩ | ⟨-, recreated, recreating, rfl⟩ |
    ⟨build, rfl, -, marking⟩
  · simp at composed
  · rcases buildAction.recreateBuild_path_cases recreating with ⟨err, rfl, -⟩ |
      ⟨env', spec', -, rfl, rfl⟩ | ⟨env', spec', catalog, _, _, some, -, rfl, -⟩ |
      ⟨env', spec', catalog, _, _, some, -, rfl, -⟩ | ⟨env', spec', catalog, _, _, some, -, rfl, -⟩
    · simp at composed
    · simp at composed
      obtain ⟨rfl, rfl⟩ := Prod.mk.inj composed
      exact ⟨rfl, responses.eq_of_not_accepted (by simp [Event.accepted]), got, rfl⟩
    all_goals
      simp at composed
      obtain ⟨rfl, -⟩ := Prod.mk.inj composed
      simp [noCatalog] at some
  · rcases buildAction.markBuildRunning_path_cases marking with ⟨-, _, rfl, -⟩ | ⟨-, rfl, -⟩ <;>
      simp at composed

/-- A pass that returns an error leaves the kit's status as the pass read it,
unless `informIntegrations` failed after the `Ready` status was written; the
kit's spec as it was, unless the initialize action had written the composed
spec; and the kit's build as it was, unless the pass deleted it and then
failed to create the new one, when there is none.  And the build action on a
submitted kit with no build, when every failed call answered NotFound and the
composition succeeded with a Camel catalog, leaves a build named like the kit
whose controller is the kit; without a catalog, it fails with "undefined camel
catalog" and creates no build. -/
theorem failed_pass_keeps_kit_and_build (name : NamespacedName) :
    (∀ store events err next kit, Exec (reconcile name) store events (.error err) next →
      store.kits.get name = some kit →
      ∃ kit', next.kits.get name = some kit' ∧
        (kit'.status = kit.status ∨
          ∃ build version inform, events = ⟨.getKit name, .ok kit⟩ ::
              ⟨.getBuild name, .ok build⟩ ::
              ⟨.updateKitStatus (buildAction.readyTarget kit build), .ok version⟩ :: inform ∧
            Path (buildAction.informIntegrations
              (withResourceVersion (buildAction.readyTarget kit build) version)) inform
              (.error err) ∧
            kit' = withResourceVersion (buildAction.readyTarget kit build) version) ∧
        (kit'.spec = kit.spec ∨ ∃ spec version,
          (⟨.updateKit { kit with spec := spec }, .ok version⟩ : Event) ∈ events ∧
            kit'.spec = spec) ∧
        (next.builds.get name = store.builds.get name ∨ ∃ build failure,
          (⟨.deleteBuild build, .ok ()⟩ : Event) ∈ events ∧
          (⟨.createBuild build, .error failure⟩ : Event) ∈ events ∧
          next.builds.get name = none)) ∧
      (∀ store events result next kit, Exec (buildAction.handle kit) store events result next →
        kit.metadata.namespacedName = name →
        kit.status.phase = integrationKitPhaseBuildSubmitted → store.builds.get name = none →
        (∀ event ∈ events, ∀ err, event.error? = some err → err.reason = .notFound) →
        (∀ answer, (⟨.apply kit, answer⟩ : Event) ∈ events →
          ∃ env spec, answer = .ok (env, spec) ∧ env.camelCatalog.isSome) →
        result = .ok () ∧ ∃ build, next.builds.get name = some build ∧
          build.metadata.ownerReferences = [newControllerRef kit]) ∧
      ∀ store events result next kit env spec, Exec (buildAction.handle kit) store events result next →
        kit.metadata.namespacedName = name →
        kit.status.phase = integrationKitPhaseBuildSubmitted →
        (⟨.apply kit, .ok (env, spec)⟩ : Event) ∈ events → env.camelCatalog = none →
        result = .error (.new "undefined camel catalog") ∧ next = store ∧
          ∃ got, events = [⟨.getBuild name, got⟩, ⟨.apply kit, .ok (env, spec)⟩] := by
  refine ⟨fun _ _ _ _ _ exec stored => reconcile_failed_pass exec stored, ?_, ?_⟩
  · rintro store events result next kit exec rfl submitted absent onlyNotFound composed
    exact buildAction.handle_creates_owned_build exec submitted absent onlyNotFound composed
  · rintro store events result next kit env spec exec rfl submitted composed noCatalog
    exact buildAction.handle_without_catalog exec submitted composed noCatalog

/-! ## A composition without a catalog -/

/-- A kit submitted for a build, in a store with no build. -/
def submittedKit : IntegrationKit :=
  { metadata := { «namespace» := "default", name := "example" }
    status := { phase := integrationKitPhaseBuildSubmitted } }

@[inherit_doc submittedKit]
def submittedStore : Store :=
  Store.empty.insertKit submittedKit

/-- The build action on it: the fetch answers NotFound and the traits compose
an environment with no Camel catalog. -/
def uncatalogedPass : List Event :=
  [⟨.getBuild submittedKit.metadata.namespacedName,
      .error (.notFound (Resource.resource Build) submittedKit.metadata.namespacedName)⟩,
    ⟨.apply submittedKit, .ok ({}, {})⟩]

/-- On a submitted kit with no build, a pass where every call succeeds but the
fetch, which answers NotFound, and where the composition succeeds, but with no
Camel catalog, fails and leaves the store as it was, with no build. -/
theorem uncataloged_pass_creates_no_build :
    Exec (buildAction.handle submittedKit) submittedStore uncatalogedPass
        (.error (.new "undefined camel catalog")) submittedStore ∧
      submittedKit.status.phase = integrationKitPhaseBuildSubmitted ∧
      submittedStore.builds.get submittedKit.metadata.namespacedName = none ∧
      (∀ event ∈ uncatalogedPass, ∀ err, event.error? = some err → err.reason = .notFound) ∧
      (⟨.apply submittedKit, .ok ({}, {})⟩ : Event) ∈ uncatalogedPass ∧
      ({} : Environment).camelCatalog = none := by
  refine ⟨⟨.call (.call (.done _)), .cons (.serve rfl) (.cons (.collaborate rfl) (.nil _))⟩,
    rfl, rfl, ?_, by simp [uncatalogedPass], rfl⟩
  intro event mem err failed
  simp only [uncatalogedPass, List.mem_cons, List.mem_singleton, List.not_mem_nil, or_false] at mem
  rcases mem with rfl | rfl <;> simp only [Event.error?, Option.some.injEq, reduceCtorEq] at failed
  subst failed
  rfl

/-! ## The kit controls its build -/

/-- The build held under `name`, if any, names the kit of that name as its
controlling owner, so that the cluster deletes the build with the kit. -/
def Store.BuildControlled (store : Store) (name : NamespacedName) : Prop :=
  ∀ build, store.builds.get name = some build →
    build.metadata.ownerReferences = [⟨"IntegrationKit", name.name, true⟩]


theorem reconcile_keeps_build_controlled {name : NamespacedName} {store next : Store}
    {events : List Event} {result : Except Error Unit}
    (exec : Exec (reconcile name) store events result next)
    (controlled : store.BuildControlled name) : next.BuildControlled name := by
  intro build stored
  rw [exec.2.builds_get] at stored
  rcases reconcile_buildWrite_cases exec.1 with others |
    ⟨kit, _, env, spec, catalog, deleted, _, rfl, -, -, -, created⟩
  · exact controlled build (by rwa [replayBuild_of_calls others] at stored)
  have named : kit.metadata.namespacedName = name := Table.key_of_get exec.2.getKit_head.1
  rcases created with rfl | ⟨_ | _, rfl⟩ <;> rcases deleted with _ | ⟨⟩ <;>
    simp [Event.buildWrite, named] at stored
  all_goals first | exact controlled build stored | (subst stored; rw [← named]; rfl)

theorem Store.writeBuildStatus_controlled {store next : Store} {name : NamespacedName}
    {status : BuildStatus} (written : store.writeBuildStatus name status = some next)
    (controlled : store.BuildControlled name) : next.BuildControlled name := by
  obtain ⟨held, found, rfl⟩ := Option.map_eq_some'.mp written
  intro build stored
  have named : held.metadata.namespacedName = name := Table.key_of_get found
  simp [Store.setBuild, Table.get_set_eq, found, named] at stored
  subst stored
  exact controlled held found

/-- The only build a pass creates is the kit's, with the kit as its controller. -/
theorem reconcile_creates_controlled {name : NamespacedName} {store next : Store}
    {events : List Event} {result : Except Error Unit}
    (exec : Exec (reconcile name) store events result next) {build : Build} {version : Nat}
    (created : (⟨.createBuild build, .ok version⟩ : Event) ∈ events) :
    key build = name ∧ build.metadata.ownerReferences = [⟨"IntegrationKit", name.name, true⟩] := by
  rcases reconcile_buildWrite_cases exec.1 with others |
    ⟨kit, _, env, spec, catalog, deleted, _, rfl, -, -, -, rest⟩
  · cases others _ created
  have named : kit.metadata.namespacedName = name := Table.key_of_get exec.2.getKit_head.1
  rcases rest with rfl | ⟨_, rfl⟩
  · rcases created with _ | ⟨_, _ | ⟨_, _ | ⟨_, _ | ⟨_, ⟨⟩⟩⟩⟩⟩
  · rcases created with _ | ⟨_, _ | ⟨_, _ | ⟨_, _ | ⟨_, _ | ⟨_, ⟨⟩⟩⟩⟩⟩⟩
    exact ⟨named, by rw [← named]; rfl⟩

theorem Run.build_controlled {name : NamespacedName} {store final : Store} {labels : List Label}
    (run : Run name store labels final) (controlled : store.BuildControlled name) :
    final.BuildControlled name := by
  induction run with
  | nil => exact controlled
  | cons transition _ ih =>
      cases transition with
      | pass exec => exact ih (reconcile_keeps_build_controlled exec controlled)
      | executor _ written => exact ih (Store.writeBuildStatus_controlled written controlled)

/-- The controller creates no build but the kit's, controlled by the kit (line
108), and the build executor writes only the status: so along every run the
build held under a kit's name, if any, has the kit as its controlling owner,
and the cluster deletes it with the kit. -/
theorem builds_stay_controlled (name : NamespacedName) :
    (∀ store events result next, Exec (reconcile name) store events result next →
      ∀ build version, (⟨.createBuild build, .ok version⟩ : Event) ∈ events →
        key build = name ∧ build.metadata.ownerReferences = [⟨"IntegrationKit", name.name, true⟩]) ∧
      ∀ store labels final, Run name store labels final → store.BuildControlled name →
        final.BuildControlled name :=
  ⟨fun _ _ _ _ exec _ _ created => reconcile_creates_controlled exec created,
    fun _ _ _ run controlled => run.build_controlled controlled⟩

/-- An environment whose traits resolved a Camel catalog. -/
def catalogedEnv : Environment :=
  { camelCatalog := some ⟨"1.0.0"⟩ }

/-- The build the build action submits for `submittedKit`. -/
def submittedBuild : Build :=
  buildAction.ownedBuild { withResourceVersion submittedKit 1 with spec := {} } catalogedEnv
    ⟨"1.0.0"⟩

/-- The build action on `submittedKit` when the traits resolve a catalog: the
fetch and the deletion answer NotFound, and the build is created. -/
def submitPass : List Event :=
  [⟨.getKit submittedKit.metadata.namespacedName, .ok (withResourceVersion submittedKit 1)⟩,
    ⟨.getBuild submittedKit.metadata.namespacedName,
      .error (.notFound (Resource.resource Build) submittedKit.metadata.namespacedName)⟩,
    ⟨.apply (withResourceVersion submittedKit 1), .ok (catalogedEnv, {})⟩,
    ⟨.deleteBuild submittedBuild,
      .error (.notFound (Resource.resource Build) submittedKit.metadata.namespacedName)⟩,
    ⟨.createBuild submittedBuild, .ok 2⟩]

theorem submitPass_exec :
    Exec (reconcile submittedKit.metadata.namespacedName) submittedStore submitPass (.ok ())
      (submittedStore.insertBuild submittedBuild) :=
  ⟨.call (.call (.call (.call (.call (.done _))))),
    .cons (.serve rfl) (.cons (.serve rfl) (.cons (.collaborate rfl) (.cons (.serve rfl)
      (.cons (.serve rfl) (.nil _)))))⟩

theorem submitPass_keeps_build_controlled :
    Run submittedKit.metadata.namespacedName submittedStore [.pass submitPass (.ok ())]
        (submittedStore.insertBuild submittedBuild) ∧
      submittedStore.BuildControlled submittedKit.metadata.namespacedName ∧
      (⟨.createBuild submittedBuild, .ok 2⟩ : Event) ∈ submitPass ∧
      (key submittedBuild = submittedKit.metadata.namespacedName ∧
        submittedBuild.metadata.ownerReferences = [⟨"IntegrationKit", "example", true⟩]) ∧
      ((submittedStore.insertBuild submittedBuild).builds.get
        submittedKit.metadata.namespacedName).isSome ∧
      (submittedStore.insertBuild submittedBuild).BuildControlled
        submittedKit.metadata.namespacedName :=
  have run : Run submittedKit.metadata.namespacedName submittedStore [.pass submitPass (.ok ())]
      (submittedStore.insertBuild submittedBuild) :=
    .cons (.pass submitPass_exec) (.nil _)
  have controlled : submittedStore.BuildControlled submittedKit.metadata.namespacedName :=
    fun _ absent => nomatch absent
  have created : (⟨.createBuild submittedBuild, .ok 2⟩ : Event) ∈ submitPass := by
    simp [submitPass]
  ⟨run, controlled, created,
    (builds_stay_controlled _).1 _ _ _ _ submitPass_exec _ _ created, rfl,
    (builds_stay_controlled _).2 _ _ _ run controlled⟩

/-! ## Where the error of a pass comes from -/

/-- Where an error a pass returns comes from: a call answered it, it is the
missing-catalog error of line 84, or it wraps the failure of the Delete or of
the Create of the build (lines 113 to 120). -/
def ErrorSource (events : List Event) (err : Error) : Prop :=
  (∃ event ∈ events, event.error? = some err) ∨ err = .new "undefined camel catalog" ∨
    ∃ cause build,
      ((⟨.deleteBuild build, .error cause⟩ : Event) ∈ events ∧
          err = cause.wrap "cannot delete build") ∨
        ((⟨.createBuild build, .error cause⟩ : Event) ∈ events ∧
          err = cause.wrap "cannot create build")

namespace ErrorSource

variable {events : List Event} {err : Error}

theorem of_answer {event : Event} (mem : event ∈ events) (failed : event.error? = some err) :
    ErrorSource events err :=
  .inl ⟨event, mem, failed⟩

/-- The error of the last call, which failed. -/
theorem of_last {call : Call} (before : List Event) :
    ErrorSource (before ++ [⟨call, .error err⟩]) err :=
  .of_answer (List.mem_append_right _ (List.mem_singleton_self _)) rfl

theorem cons (source : ErrorSource events err) (event : Event) :
    ErrorSource (event :: events) err := by
  rcases source with ⟨failed, mem, answered⟩ | missing | ⟨cause, build, ⟨mem, rfl⟩ | ⟨mem, rfl⟩⟩
  · exact .of_answer (List.mem_cons_of_mem _ mem) answered
  · exact .inr (.inl missing)
  · exact .inr (.inr ⟨cause, build, .inl ⟨List.mem_cons_of_mem _ mem, rfl⟩⟩)
  · exact .inr (.inr ⟨cause, build, .inr ⟨List.mem_cons_of_mem _ mem, rfl⟩⟩)

end ErrorSource

theorem initializeAction.handle_errorSource {kit : IntegrationKit} {events : List Event}
    {err : Error} (path : Path (initializeAction.handle kit) events (.error err)) :
    ErrorSource events err := by
  rcases initializeAction.handle_path_cases path with ⟨_, rfl, ⟨⟩⟩ | ⟨_, rfl, ⟨⟩⟩ |
    ⟨_, _, _, rfl, ⟨⟩⟩ | ⟨_, _, _, _, rfl, ⟨⟩⟩ | ⟨_, _, _, _, answer, rfl, failed⟩
  · exact .of_last [_]
  · exact .of_last [_, _]
  · exact .of_last [_, _, _]
  · rcases answer with _ | _ <;> cases failed
    exact .of_last [_, _, _, _]

theorem buildAction.recreateBuild_errorSource {kit : IntegrationKit} {events : List Event}
    {err : Error} (path : Path (buildAction.recreateBuild kit) events (.error err)) :
    ErrorSource events err := by
  rcases buildAction.recreateBuild_path_cases path with ⟨_, rfl, ⟨⟩⟩ | ⟨_, _, -, rfl, ⟨⟩⟩ |
    ⟨_, _, _, _, cause, -, ignored, rfl, ⟨⟩⟩ | ⟨_, _, _, _, cause, -, -, rfl, ⟨⟩⟩ |
    ⟨_, _, _, _, _, -, -, rfl, ⟨⟩⟩
  · exact .of_last []
  · exact .inr (.inl rfl)
  · obtain ⟨rfl, -⟩ := ignoreNotFound_eq_error ignored
    exact .inr (.inr ⟨cause, _, .inl ⟨List.mem_cons_of_mem _ (List.mem_singleton_self _), rfl⟩⟩)
  · exact .inr (.inr ⟨cause, _, .inr ⟨List.mem_cons_of_mem _ (List.mem_cons_of_mem _
      (List.mem_singleton_self _)), rfl⟩⟩)

theorem buildAction.informIntegrations_errorSource {kit : IntegrationKit} {events : List Event}
    {err : Error} (path : Path (buildAction.informIntegrations kit) events (.error err)) :
    ErrorSource events err := by
  obtain ⟨_, rest, rfl, ⟨_, rfl, rfl, ⟨⟩⟩ | ⟨items, rfl, informing⟩⟩ :=
    buildAction.informIntegrations_path_cases path
  · exact .of_last []
  rcases buildAction.informEach_path_cases informing with ⟨-, -, ⟨⟩⟩ |
    ⟨_, _, -, -, -, last, ⟨⟩⟩
  obtain ⟨event, found, failed⟩ := Option.bind_eq_some.mp last
  exact (ErrorSource.of_answer (List.mem_of_getLast?_eq_some found) failed).cons _

/-- Reached from `Handle`, the kit of the `BuildRunning` branch is running, so
the phase re-checks of lines 152 and 190 pass, and a failure comes from a call. -/
theorem buildAction.buildSucceeded_errorSource {kit : IntegrationKit} {build : Build}
    {events : List Event} {err : Error} (running : kit.status.phase = integrationKitPhaseBuildRunning)
    (path : Path (buildAction.buildSucceeded kit build) events (.error err)) :
    ErrorSource events err := by
  rcases buildAction.buildSucceeded_path_cases path with ⟨stale, -⟩ | ⟨-, _, rfl, ⟨⟩⟩ |
    ⟨-, _, _, rfl, informing⟩
  · exact absurd running stale
  · exact .of_last []
  · exact (buildAction.informIntegrations_errorSource informing).cons _

@[inherit_doc buildAction.buildSucceeded_errorSource]
theorem buildAction.buildFailed_errorSource {kit : IntegrationKit} {build : Build}
    {events : List Event} {err : Error} (running : kit.status.phase = integrationKitPhaseBuildRunning)
    (path : Path (buildAction.buildFailed kit build) events (.error err)) :
    ErrorSource events err := by
  rcases buildAction.buildFailed_path_cases path with ⟨stale, -⟩ | ⟨-, answer, rfl, failed⟩
  · exact absurd running stale
  · rcases answer with _ | _ <;> cases failed
    exact .of_last []

theorem buildAction.handleBuildRunning_errorSource {kit : IntegrationKit} {events : List Event}
    {err : Error} (running : kit.status.phase = integrationKitPhaseBuildRunning)
    (path : Path (buildAction.handleBuildRunning kit) events (.error err)) :
    ErrorSource events err := by
  obtain ⟨_, rest, rfl, ⟨_, rfl, rfl, ⟨⟩⟩ | ⟨_, rfl, -, succeeding⟩ | ⟨_, rfl, -, failing⟩ |
    ⟨_, rfl, -, -, -, -, ⟨⟩⟩⟩ := buildAction.handleBuildRunning_path_cases path
  · exact .of_last []
  · exact (buildAction.buildSucceeded_errorSource running succeeding).cons _
  · exact (buildAction.buildFailed_errorSource running failing).cons _

theorem buildAction.handleBuildSubmitted_errorSource {kit : IntegrationKit} {events : List Event}
    {err : Error} (path : Path (buildAction.handleBuildSubmitted kit) events (.error err)) :
    ErrorSource events err := by
  obtain ⟨_, rest, rfl, ⟨_, rfl, -, rfl, ⟨⟩⟩ | ⟨-, recreated, recreating, failed⟩ |
    ⟨build, rfl, -, marking⟩⟩ := buildAction.handleBuildSubmitted_path_cases path
  · exact .of_last []
  · rcases recreated with _ | _ <;> cases failed
    exact (buildAction.recreateBuild_errorSource recreating).cons _
  · rcases buildAction.markBuildRunning_path_cases marking with ⟨-, answer, rfl, failed⟩ |
      ⟨-, -, ⟨⟩⟩
    rcases answer with _ | _ <;> cases failed
    exact .of_last [_]

theorem buildAction.handle_errorSource {kit : IntegrationKit} {events : List Event} {err : Error}
    (path : Path (buildAction.handle kit) events (.error err)) : ErrorSource events err := by
  rcases buildAction.handle_path_cases path with ⟨-, submitting⟩ | ⟨running, handling⟩ |
    ⟨-, -, -, ⟨⟩⟩
  · exact buildAction.handleBuildSubmitted_errorSource submitting
  · exact buildAction.handleBuildRunning_errorSource running handling

theorem reconcile_errorSource {name : NamespacedName} {events : List Event} {err : Error}
    (path : Path (reconcile name) events (.error err)) : ErrorSource events err := by
  obtain ⟨_, rest, rfl, ⟨fetchErr, rfl, rfl, failed⟩ | ⟨_, rfl, -, initializing⟩ |
    ⟨_, rfl, -, handling⟩ | ⟨_, rfl, -, -, -, -, ⟨⟩⟩⟩ := reconcile_path_cases path
  · split at failed
    · cases failed
    · cases failed
      exact .of_last []
  · exact (initializeAction.handle_errorSource initializing).cons _
  · exact (buildAction.handle_errorSource handling).cons _

/-- The text of a phase-mismatch error starts with "found kit", which neither
the missing-catalog error nor a wrapped failure of a Delete or a Create does:
a pass returns it only when a call answered it. -/
theorem ErrorSource.phaseMismatch {events : List Event} {wording : String} {build : Build}
    {kit : IntegrationKit} (source : ErrorSource events (buildAction.phaseMismatch wording build kit)) :
    ∃ event ∈ events, event.error? = some (buildAction.phaseMismatch wording build kit) := by
  rcases source with answered | missing | ⟨cause, _, ⟨-, wrapped⟩ | ⟨-, wrapped⟩⟩
  · exact answered
  all_goals
    have initial := congrArg (fun err : Error => err.message.data.head?) ‹_ = _›
    simp [buildAction.phaseMismatch, Error.new, Error.wrap, String.append] at initial

/-- Every error a pass returns, under any answers, is the error a call answered,
the missing-catalog error, or the wrapped failure of the Delete or the Create of
the build.  In particular the phase re-checks of the `BuildRunning` branch never
fail: a pass returns a phase-mismatch error only when a call answered it. -/
theorem pass_errors_come_from_calls (name : NamespacedName) :
    ∀ events err, Path (reconcile name) events (.error err) →
      ErrorSource events err ∧
        ∀ wording build kit, err = buildAction.phaseMismatch wording build kit →
          ∃ event ∈ events, event.error? = some err :=
  fun _ _ path => ⟨reconcile_errorSource path, by
    rintro wording build kit rfl
    exact (reconcile_errorSource path).phaseMismatch⟩

/-- The pass of `submitPass` when the server refuses the Create. -/
def refusedCreatePass : List Event :=
  [⟨.getKit submittedKit.metadata.namespacedName, .ok (withResourceVersion submittedKit 1)⟩,
    ⟨.getBuild submittedKit.metadata.namespacedName,
      .error (.notFound (Resource.resource Build) submittedKit.metadata.namespacedName)⟩,
    ⟨.apply (withResourceVersion submittedKit 1), .ok (catalogedEnv, {})⟩,
    ⟨.deleteBuild submittedBuild,
      .error (.notFound (Resource.resource Build) submittedKit.metadata.namespacedName)⟩,
    ⟨.createBuild submittedBuild, .error unavailable⟩]

theorem refusedCreatePass_wraps_refusal :
    Path (reconcile submittedKit.metadata.namespacedName) refusedCreatePass
        (.error (unavailable.wrap "cannot create build")) ∧
      ErrorSource refusedCreatePass (unavailable.wrap "cannot create build") ∧
      ∀ wording build kit, unavailable.wrap "cannot create build" =
          buildAction.phaseMismatch wording build kit →
        ∃ event ∈ refusedCreatePass, event.error? = some (unavailable.wrap "cannot create build") :=
  have path : Path (reconcile submittedKit.metadata.namespacedName) refusedCreatePass
      (.error (unavailable.wrap "cannot create build")) :=
    .call (.call (.call (.call (.call (.done _)))))
  ⟨path, pass_errors_come_from_calls _ _ _ path⟩

end CamelK
