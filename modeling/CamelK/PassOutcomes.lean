import CamelK.PassEffects

/-!
# What a reconcile pass leaves in the store

For each handler, and for the dispatcher around them, the stores a pass run
alone against the store may end in: the store it started from, when none of its
writes was accepted, or the store with the handler's accepted writes replayed
over it.  The handlers' paths are taken apart once, here; the properties of
passes and runs are read off these lemmas.
-/

namespace CamelK

open Resource Prog

/-- The informing of integrations only lists and updates integrations. -/
theorem buildAction.informIntegrations_path_calls {kit : IntegrationKit} {events : List Event}
    {result : Except Error Unit} (path : Path (buildAction.informIntegrations kit) events result) :
    ∀ event ∈ events, event.1 = .listIntegrations kit.metadata.namespace ∨
      ∃ integration, event.1 = .updateIntegrationStatus integration := by
  obtain ⟨listed, rest, rfl, (⟨_, _, rfl, _⟩ | ⟨items, _, following⟩)⟩ :=
    buildAction.informIntegrations_path_cases path
  · simp
  · have updates : ∀ event ∈ rest, ∃ integration, event.1 = .updateIntegrationStatus integration := by
      intro event mem
      have called := List.mem_map_of_mem Sigma.fst mem
      rcases buildAction.informEach_path_cases following with ⟨calls, -⟩ | ⟨_, _, _, calls, -⟩ <;>
        rw [calls] at called <;>
        obtain ⟨integration, -, same⟩ := List.mem_map.mp called
      · exact ⟨_, same.symm⟩
      · exact ⟨_, same.symm⟩
    simpa using fun event mem => Or.inr (updates event mem)

theorem buildAction.informIntegrations_path_writes {kit : IntegrationKit}
    {events : List Event} {result : Except Error Unit}
    (path : Path (buildAction.informIntegrations kit) events result) :
    ∀ event ∈ events, event.1.writesKit = false ∧ event.1.writesBuild = false := by
  intro event mem
  rcases buildAction.informIntegrations_path_calls path event mem with same | ⟨_, same⟩ <;>
    simp [same, Call.writesKit, Call.writesBuild]

theorem replayKit_of_calls {name : NamespacedName} {events : List Event}
    (others : ∀ event ∈ events, event.1.writesKit = false) (held : Option IntegrationKit) :
    replayKit name events held = held := by
  induction events generalizing held with
  | nil => rfl
  | cons event events ih =>
      simp only [List.mem_cons, forall_eq_or_imp] at others
      rw [replayKit_cons, ih others.2]
      obtain ⟨call, answer⟩ := event
      cases call <;> first | rfl | simp [Call.writesKit] at others

theorem replayBuild_of_calls {name : NamespacedName} {events : List Event}
    (others : ∀ event ∈ events, event.1.writesBuild = false) (held : Option Build) :
    replayBuild name events held = held := by
  induction events generalizing held with
  | nil => rfl
  | cons event events ih =>
      simp only [List.mem_cons, forall_eq_or_imp] at others
      rw [replayBuild_cons, ih others.2]
      obtain ⟨call, answer⟩ := event
      cases call <;> first | rfl | simp [Call.writesBuild] at others

/-! ## The initialize action -/

theorem initializeAction.handle_exec_cases {store next : Store} {kit : IntegrationKit}
    {events : List Event} {result : Except Error Unit}
    (found : store.kits.get kit.metadata.namespacedName = some kit)
    (exec : Exec (initializeAction.handle kit) store events result next) :
    (next = store ∧ ∀ event ∈ events, event.accepted = false) ∨
      ∃ env spec version, (⟨.apply kit, .ok (env, spec)⟩ : Event) ∈ events ∧
        (⟨.updateKit { kit with spec := spec }, .ok version⟩ : Event) ∈ events ∧
        (∀ name, next.builds.get name = store.builds.get name) ∧
        (∀ name, next.integrations.get name = store.integrations.get name) ∧
        ((∃ err, result = .error err ∧ next.kits.get kit.metadata.namespacedName =
            some (withResourceVersion { kit with spec := spec } version)) ∨
          (result = .ok () ∧ ∃ dgst written,
            (⟨.computeDigest (initializeAction.initialTarget
              (withResourceVersion { kit with spec := spec } version)), .ok dgst⟩ : Event) ∈ events ∧
            (⟨.updateKitStatus { initializeAction.initialTarget
              (withResourceVersion { kit with spec := spec } version) with status.digest := dgst },
              .ok written⟩ : Event) ∈ events ∧
            next.kits.get kit.metadata.namespacedName = some (withResourceVersion
              { initializeAction.initialTarget (withResourceVersion { kit with spec := spec } version)
                with status.digest := dgst } written))) := by
  obtain ⟨path, responses⟩ := exec
  have kits := responses.kits_get kit.metadata.namespacedName
  have builds := responses.builds_get
  have integrations := responses.integrations_get
  rcases initializeAction.handle_path_cases path with ⟨err, rfl, rfl⟩ | ⟨err, rfl, rfl⟩ |
    ⟨env, spec, err, rfl, rfl⟩ | ⟨env, spec, version, err, rfl, rfl⟩ |
    ⟨env, spec, version, dgst, answer, rfl, rfl⟩
  iterate 3 exact .inl (responses.unchanged_of_all_rejected rfl)
  all_goals refine .inr ⟨env, spec, version, by simp, by simp,
    builds,
    integrations, ?_⟩
  · exact .inl ⟨err, rfl, by simp [kits, Event.kitWrite, found]⟩
  · rcases answer with err | written
    · exact .inl ⟨err, rfl, by simp [kits, Event.kitWrite, found]⟩
    · exact .inr ⟨rfl, dgst, written, by simp, by simp, by simp [kits, Event.kitWrite, found]⟩

/-! ## The build action while the build is submitted -/

theorem buildAction.handleBuildSubmitted_exec_cases {store next : Store} {kit : IntegrationKit}
    {events : List Event} {result : Except Error Unit}
    (found : store.kits.get kit.metadata.namespacedName = some kit)
    (exec : Exec (buildAction.handleBuildSubmitted kit) store events result next) :
    (next = store ∧ ∀ event ∈ events, event.accepted = false) ∨
      (∃ got env spec catalog deleted err, buildAction.Resubmits got ∧
        (∀ build, store.builds.get kit.metadata.namespacedName = some build →
          buildAction.Resubmits (.ok build)) ∧
        env.camelCatalog = some catalog ∧ ignoreNotFound deleted = .ok () ∧
        (deleted = .ok () ∨ store.builds.get kit.metadata.namespacedName = none) ∧
        events = [⟨.getBuild kit.metadata.namespacedName, got⟩, ⟨.apply kit, .ok (env, spec)⟩,
          ⟨.deleteBuild (buildAction.ownedBuild { kit with spec := spec } env catalog), deleted⟩,
          ⟨.createBuild (buildAction.ownedBuild { kit with spec := spec } env catalog), .error err⟩] ∧
        result = .error (err.wrap "cannot create build") ∧
        next.builds.get kit.metadata.namespacedName = none ∧
        (∀ name, next.kits.get name = store.kits.get name) ∧
        (∀ name, next.integrations.get name = store.integrations.get name)) ∨
      (∃ got env spec catalog deleted version, buildAction.Resubmits got ∧
        (∀ build, store.builds.get kit.metadata.namespacedName = some build →
          buildAction.Resubmits (.ok build)) ∧
        env.camelCatalog = some catalog ∧ ignoreNotFound deleted = .ok () ∧
        events = [⟨.getBuild kit.metadata.namespacedName, got⟩, ⟨.apply kit, .ok (env, spec)⟩,
          ⟨.deleteBuild (buildAction.ownedBuild { kit with spec := spec } env catalog), deleted⟩,
          ⟨.createBuild (buildAction.ownedBuild { kit with spec := spec } env catalog),
            .ok version⟩] ∧
        result = .ok () ∧
        next.builds.get kit.metadata.namespacedName = some (withResourceVersion
          (buildAction.ownedBuild { kit with spec := spec } env catalog) version) ∧
        (∀ name, next.kits.get name = store.kits.get name) ∧
        (∀ name, next.integrations.get name = store.integrations.get name)) ∨
      (∃ build version, store.builds.get kit.metadata.namespacedName = some build ∧
        build.status.phase = buildPhaseRunning ∧
        events = [⟨.getBuild kit.metadata.namespacedName, .ok build⟩,
          ⟨.updateKitStatus { kit with status.phase := integrationKitPhaseBuildRunning },
            .ok version⟩] ∧
        result = .ok () ∧
        next.kits.get kit.metadata.namespacedName = some (withResourceVersion
          { kit with status.phase := integrationKitPhaseBuildRunning } version) ∧
        (∀ name, next.builds.get name = store.builds.get name) ∧
        (∀ name, next.integrations.get name = store.integrations.get name)) := by
  obtain ⟨path, responses⟩ := exec
  have kits := responses.kits_get
  have builds := responses.builds_get
  have integrations := responses.integrations_get
  obtain ⟨got, rest, rfl, cases⟩ := buildAction.handleBuildSubmitted_path_cases path
  obtain ⟨middle, fetched, following⟩ := responses_cons.mp responses
  obtain ⟨same, storedOk, storedNotFound⟩ := fetched.getBuild_answer
  subst middle
  have ended (resubmits : buildAction.Resubmits got) (build : Build)
      (stored : store.builds.get kit.metadata.namespacedName = some build) :
      buildAction.Resubmits (.ok build) := by
    rcases got with err | current
    · simp [storedNotFound err rfl resubmits] at stored
    · rw [storedOk current rfl] at stored
      cases stored
      exact resubmits
  rcases cases with ⟨err, rfl, -, rfl, rfl⟩ | ⟨resubmits, recreated, recreating, rfl⟩ |
    ⟨build, rfl, -, marking⟩
  · exact .inl (responses.unchanged_of_all_rejected rfl)
  · rcases buildAction.recreateBuild_path_cases recreating with ⟨err, rfl, rfl⟩ |
      ⟨env, spec, -, rfl, rfl⟩ | ⟨env, spec, catalog, deleted, err, -, ignored, rfl, rfl⟩ |
      ⟨env, spec, catalog, deleted, err, some, ignored, rfl, rfl⟩ |
      ⟨env, spec, catalog, deleted, version, some, ignored, rfl, rfl⟩
    · exact .inl (responses.unchanged_of_all_rejected rfl)
    · exact .inl (responses.unchanged_of_all_rejected rfl)
    · obtain ⟨rfl, -⟩ := ignoreNotFound_eq_error ignored
      exact .inl (responses.unchanged_of_all_rejected rfl)
    · have absent : deleted = .ok () ∨
          store.builds.get kit.metadata.namespacedName = none := by
        rcases ignoreNotFound_eq_ok ignored with rfl | ⟨err', rfl, notFound⟩
        · exact .inl rfl
        · obtain ⟨_, composed, _, deleting, -⟩ := by simpa only [responses_cons] using following
          rw [composed.eq_of_not_accepted rfl] at deleting
          simpa using deleting.deleteBuild_notFound notFound
      refine .inr (.inl ⟨got, env, spec, catalog, deleted, err, resubmits, ended resubmits, some,
        ignored, absent, rfl, rfl, ?_, kits,
        integrations⟩)
      rcases absent with rfl | absent
      · simp [builds, Event.buildWrite]
      · rcases ignoreNotFound_eq_ok ignored with rfl | ⟨_, rfl, _⟩ <;>
          simp [builds, Event.buildWrite, absent]
    · refine .inr (.inr (.inl ⟨got, env, spec, catalog, deleted, version, resubmits,
        ended resubmits, some, ignored, rfl, rfl, ?_, kits,
        integrations⟩))
      rcases ignoreNotFound_eq_ok ignored with rfl | ⟨_, rfl, _⟩ <;>
        simp [builds, Event.buildWrite]
  · rcases buildAction.markBuildRunning_path_cases marking with
      ⟨running, answer, rfl, rfl⟩ | ⟨-, rfl, rfl⟩
    · rcases answer with err | version
      · exact .inl (responses.unchanged_of_all_rejected rfl)
      · exact .inr (.inr (.inr ⟨build, version, storedOk build rfl, running, rfl, rfl,
          by simp [kits, Event.kitWrite, found], builds,
          integrations⟩))
    · exact .inl (responses.unchanged_of_all_rejected rfl)

/-! ## The build action while the build runs -/

theorem buildAction.handleBuildRunning_exec_cases {store next : Store} {kit : IntegrationKit}
    {events : List Event} {result : Except Error Unit}
    (found : store.kits.get kit.metadata.namespacedName = some kit)
    (exec : Exec (buildAction.handleBuildRunning kit) store events result next) :
    (next = store ∧ ∀ event ∈ events, event.accepted = false) ∨
      (∃ build version inform, store.builds.get kit.metadata.namespacedName = some build ∧
        build.status.phase = buildPhaseSucceeded ∧
        kit.status.phase = integrationKitPhaseBuildRunning ∧
        events = ⟨.getBuild kit.metadata.namespacedName, .ok build⟩ ::
          ⟨.updateKitStatus (buildAction.readyTarget kit build), .ok version⟩ :: inform ∧
        Path (buildAction.informIntegrations
          (withResourceVersion (buildAction.readyTarget kit build) version)) inform result ∧
        next.kits.get kit.metadata.namespacedName =
          some (withResourceVersion (buildAction.readyTarget kit build) version) ∧
        (∀ name, next.builds.get name = store.builds.get name) ∧
        (∀ name, next.integrations.get name =
          replayIntegration name inform (store.integrations.get name))) ∨
      (∃ build version, store.builds.get kit.metadata.namespacedName = some build ∧
        (build.status.phase = buildPhaseError ∨ build.status.phase = buildPhaseInterrupted) ∧
        kit.status.phase = integrationKitPhaseBuildRunning ∧
        events = [⟨.getBuild kit.metadata.namespacedName, .ok build⟩,
          ⟨.updateKitStatus (buildAction.errorTarget kit build), .ok version⟩] ∧
        result = .ok () ∧
        next.kits.get kit.metadata.namespacedName =
          some (withResourceVersion (buildAction.errorTarget kit build) version) ∧
        (∀ name, next.builds.get name = store.builds.get name) ∧
        (∀ name, next.integrations.get name = store.integrations.get name)) := by
  obtain ⟨path, responses⟩ := exec
  have kits := responses.kits_get
  have builds := responses.builds_get
  have integrations := responses.integrations_get
  obtain ⟨got, rest, rfl, cases⟩ := buildAction.handleBuildRunning_path_cases path
  obtain ⟨middle, fetched, -⟩ := responses_cons.mp responses
  obtain ⟨same, storedOk, -⟩ := fetched.getBuild_answer
  subst middle
  rcases cases with ⟨err, rfl, rfl, rfl⟩ | ⟨build, rfl, succeeded, succeeding⟩ |
    ⟨build, rfl, failed, failing⟩ | ⟨build, rfl, -, -, -, rfl, rfl⟩
  · exact .inl (responses.unchanged_of_all_rejected rfl)
  · rcases buildAction.buildSucceeded_path_cases succeeding with ⟨-, rfl, rfl⟩ |
      ⟨-, err, rfl, rfl⟩ | ⟨running, version, inform, rfl, informing⟩
    · exact .inl (responses.unchanged_of_all_rejected rfl)
    · exact .inl (responses.unchanged_of_all_rejected rfl)
    · have writes := buildAction.informIntegrations_path_writes informing
      refine .inr (.inl ⟨build, version, inform, storedOk build rfl, succeeded, running, rfl,
        informing, ?_, fun name => ?_, integrations⟩)
      · simp [kits, Event.kitWrite, found,
          replayKit_of_calls fun event mem => (writes event mem).1]
      · simp [builds, Event.buildWrite, replayBuild_of_calls fun event mem => (writes event mem).2]
  · rcases buildAction.buildFailed_path_cases failing with ⟨-, rfl, rfl⟩ |
      ⟨running, err | version, rfl, rfl⟩
    · exact .inl (responses.unchanged_of_all_rejected rfl)
    · exact .inl (responses.unchanged_of_all_rejected rfl)
    · exact .inr (.inr ⟨build, version, storedOk build rfl, failed, running, rfl, rfl,
        by simp [kits, Event.kitWrite, found], builds,
        integrations⟩)
  · exact .inl (responses.unchanged_of_all_rejected rfl)

/-! ## The dispatcher -/

/-- A pass either writes nothing, or reads the kit under `name` from the store
and runs the handler of its phase against the same store. -/
theorem reconcile_exec_cases {name : NamespacedName} {store next : Store} {events : List Event}
    {result : Except Error Unit} (exec : Exec (reconcile name) store events result next) :
    (next = store ∧ ∀ event ∈ events, event.accepted = false) ∨
      ∃ kit rest, store.kits.get name = some kit ∧ kit.metadata.namespacedName = name ∧
        events = ⟨.getKit name, .ok kit⟩ :: rest ∧
        ((kit.status.phase = integrationKitPhaseNone ∧
            Exec (initializeAction.handle kit) store rest result next) ∨
          (kit.status.phase = integrationKitPhaseBuildSubmitted ∧
            Exec (buildAction.handleBuildSubmitted kit) store rest result next) ∨
          (kit.status.phase = integrationKitPhaseBuildRunning ∧
            Exec (buildAction.handleBuildRunning kit) store rest result next)) := by
  obtain ⟨path, responses⟩ := exec
  obtain ⟨got, rest, rfl, cases⟩ := reconcile_path_cases path
  obtain ⟨middle, fetched, following⟩ := responses_cons.mp responses
  obtain ⟨same, storedOk, -⟩ := fetched.getKit_answer
  subst middle
  rcases cases with ⟨err, rfl, rfl, -⟩ | ⟨kit, rfl, unset, handling⟩ |
    ⟨kit, rfl, building, handling⟩ | ⟨kit, rfl, -, -, -, rfl, rfl⟩
  · exact .inl (responses.unchanged_of_all_rejected rfl)
  · have stored := storedOk kit rfl
    exact .inr ⟨kit, rest, stored, Table.key_of_get stored, rfl, .inl ⟨unset, handling, following⟩⟩
  · have stored := storedOk kit rfl
    refine .inr ⟨kit, rest, stored, Table.key_of_get stored, rfl, ?_⟩
    rcases buildAction.handle_path_cases handling with ⟨submitted, handling⟩ |
      ⟨running, handling⟩ | ⟨notSubmitted, notRunning, -⟩
    · exact .inr (.inl ⟨submitted, handling, following⟩)
    · exact .inr (.inr ⟨running, handling, following⟩)
    · exact absurd building (not_or.mpr ⟨notSubmitted, notRunning⟩)
  · exact .inl (responses.unchanged_of_all_rejected rfl)

end CamelK
