import CamelK.ErrorPaths

/-!
# Progress when nothing fails

The other files say what the controller never does.  This one says what it does
when nothing goes wrong: the collaborators answer, a composition comes with a
Camel catalog, and the store turns down no call, finding no object to read or
delete being an answer.  A pass on such terms returns no error and moves the
kit on: an unset kit is submitted, or ready at once from an image; a submitted
kit with no build in flight gets one, and one whose build runs is marked
running; a running kit whose build ended is ready or in error.  Only a kit that
waits for its build executor, or is done, is left as it is.  So along a run of
such passes, with nothing else happening, at most four passes write.
-/

namespace CamelK

open Resource Prog

/-! ## Answers that are no failure -/

/-- The calls the store answers; the others go to the collaborators. -/
def Call.toStore : Call → Bool
  | .getCurrentPlatform _ | .apply _ | .computeDigest _ => false
  | _ => true

/-- An answer that is no failure: a success, or the store finding no object to
read, update or delete; and a composition comes with a Camel catalog. -/
def Event.healthy : Event → Bool
  | ⟨.apply _, .ok (env, _)⟩ => env.camelCatalog.isSome
  | ⟨request, .error err⟩ => request.toStore && err.reason == .notFound
  | _ => true

theorem Event.healthy_error {call : Call} {err : Error}
    (healthy : Event.healthy ⟨call, .error err⟩ = true) :
    call.toStore = true ∧ err.reason = .notFound := by
  have split : (call.toStore && err.reason == .notFound) = true := by
    cases call <;> exact healthy
  simpa using split

/-- What a NotFound answer says of the store a sequence of calls started from:
the kit or the integration the call names was not there, since no call removes
one; a build may come and go within the sequence.  A creation, a listing and
the collaborators never answer so. -/
def Call.Missing (store : Store) : Call → Prop
  | .getKit name => store.kits.get name = none
  | .updateKit kit | .updateKitStatus kit => store.kits.get (key kit) = none
  | .updateIntegrationStatus integration => store.integrations.get (key integration) = none
  | .getBuild _ | .deleteBuild _ => True
  | .createBuild _ | .listIntegrations _ | .getCurrentPlatform _ | .apply _ | .computeDigest _ =>
      False

theorem Responds.missing {store next : Store} {call : Call} {err : Error}
    (responds : Responds store call (.error err) next)
    (healthy : Event.healthy ⟨call, .error err⟩ = true) :
    next = store ∧ call.Missing store := by
  obtain ⟨toStore, notFound⟩ := Event.healthy_error healthy
  cases responds with
  | fail _ transient => exact absurd notFound transient
  | collaborate unserved => cases call <;> first | (cases toStore; done) | cases unserved
  | serve served =>
      cases call <;> simp only [Call.serve, Option.some.injEq, Prod.mk.injEq] at served
      case getKit =>
        obtain ⟨answered, rfl⟩ := served
        refine ⟨rfl, ?_⟩
        unfold Store.getKit at answered
        split at answered
        · cases answered
        · assumption
      case updateKit | updateKitStatus | updateIntegrationStatus =>
        obtain ⟨failed, rfl⟩ := Store.answer_eq_error served
        exact ⟨rfl, Table.current_notFound (Store.map_eq_error failed) notFound⟩
      case getBuild => exact ⟨served.2.symm, trivial⟩
      case deleteBuild => exact ⟨(Store.answer_eq_error served).2, trivial⟩
      case createBuild =>
        obtain ⟨failed, -⟩ := Store.answer_eq_error served
        unfold Store.createBuild at failed
        split at failed <;> cases failed
        cases notFound
      case listIntegrations => cases served.1
      all_goals cases toStore

/-- A kit or an integration missing after a call was missing before it. -/
theorem Responds.missing_before {store next : Store} {request : Call}
    {answer : Except Error request.Out} (responds : Responds store request answer next)
    {call : Call} (missing : call.Missing next) : call.Missing store := by
  have kits (name : NamespacedName) (absent : next.kits.get name = none) :
      store.kits.get name = none := by
    rw [← Option.not_isSome_iff_eq_none, ← Event.kitWrite_isSome ⟨request, answer⟩ name,
      ← responds.kits_get, Option.not_isSome_iff_eq_none]
    exact absent
  have integrations (name : NamespacedName) (absent : next.integrations.get name = none) :
      store.integrations.get name = none := by
    rw [← Option.not_isSome_iff_eq_none, ← Event.integrationWrite_isSome ⟨request, answer⟩ name,
      ← responds.integrations_get, Option.not_isSome_iff_eq_none]
    exact absent
  cases call
  case getKit name => exact kits name missing
  case updateKit kit | updateKitStatus kit => exact kits (key kit) missing
  case updateIntegrationStatus integration => exact integrations (key integration) missing
  all_goals exact missing

/-- In a sequence of calls answered with no failure, a call answered NotFound
names a kit or an integration missing from the start. -/
theorem Responses.missing {store final : Store} {events : List Event}
    (responses : Responses store events final) (healthy : events.all Event.healthy = true)
    {call : Call} {err : Error} (mem : (⟨call, .error err⟩ : Event) ∈ events) :
    call.Missing store := by
  induction responses with
  | nil => cases mem
  | cons responds _ ih =>
      simp only [List.all_cons, Bool.and_eq_true] at healthy
      rcases List.mem_cons.mp mem with same | mem
      · cases same
        exact (responds.missing healthy.1).2
      · exact responds.missing_before (ih healthy.2 mem)

theorem Event.healthy_of_mem {events : List Event} {event : Event}
    (healthy : events.all Event.healthy = true) (mem : event ∈ events) : event.healthy = true :=
  List.all_eq_true.mp healthy event mem

/-! ## How far a kit has come -/

instance : DecidablePred buildAction.Resubmits := fun got =>
  match got with
  | .error err => inferInstanceAs (Decidable (err.reason = .notFound))
  | .ok build => inferInstanceAs (Decidable (build.status.phase = buildPhaseError ∨
      build.status.phase = buildPhaseInterrupted ∨ build.status.phase = buildPhaseSucceeded))

/-- How far the kit under `name` has come: `0` unset, `1` submitted with no
build in flight, `2` submitted with one, `3` running, `4` done with its build,
or gone. -/
def Store.stage (store : Store) (name : NamespacedName) : Nat :=
  match store.kits.get name with
  | none => 4
  | some kit =>
      if kit.status.phase = integrationKitPhaseNone then 0
      else if kit.status.phase = integrationKitPhaseBuildSubmitted then
        match store.builds.get name with
        | some build => if buildAction.Resubmits (.ok build) then 1 else 2
        | none => 1
      else if kit.status.phase = integrationKitPhaseBuildRunning then 3
      else 4

/-- The kit waits for the build executor: its build is in flight, and the kit is
submitted while the build does not run yet, or the kit is running. -/
def Store.AwaitsExecutor (store : Store) (name : NamespacedName) : Prop :=
  ∃ kit build, store.kits.get name = some kit ∧ store.builds.get name = some build ∧
    ¬buildAction.Resubmits (.ok build) ∧
    (kit.status.phase = integrationKitPhaseBuildSubmitted ∧ build.status.phase ≠ buildPhaseRunning ∨
      kit.status.phase = integrationKitPhaseBuildRunning)

namespace Store

variable {store : Store} {name : NamespacedName} {kit : IntegrationKit}

theorem stage_le (store : Store) (name : NamespacedName) : store.stage name ≤ 4 := by
  unfold stage
  split <;> (repeat' split) <;> omega

theorem stage_gone (absent : store.kits.get name = none) : store.stage name = 4 := by
  simp [stage, absent]

theorem stage_unset (stored : store.kits.get name = some kit)
    (unset : kit.status.phase = integrationKitPhaseNone) : store.stage name = 0 := by
  simp [stage, stored, unset]

theorem stage_pos (stored : store.kits.get name = some kit)
    (set : kit.status.phase ≠ integrationKitPhaseNone) : 0 < store.stage name := by
  simp only [stage, stored, set, ite_false]
  split
  · split <;> (try split) <;> omega
  · split <;> omega

theorem stage_submitted_inFlight {build : Build} (stored : store.kits.get name = some kit)
    (submitted : kit.status.phase = integrationKitPhaseBuildSubmitted)
    (found : store.builds.get name = some build) (inFlight : ¬buildAction.Resubmits (.ok build)) :
    store.stage name = 2 := by
  simp [stage, stored, submitted, found, inFlight, integrationKitPhaseBuildSubmitted,
    integrationKitPhaseNone]

theorem stage_submitted_ended (stored : store.kits.get name = some kit)
    (submitted : kit.status.phase = integrationKitPhaseBuildSubmitted)
    (ended : store.NoBuildInFlight name) : store.stage name = 1 := by
  cases found : store.builds.get name with
  | none =>
      simp [stage, stored, submitted, found, integrationKitPhaseBuildSubmitted,
        integrationKitPhaseNone]
  | some build =>
      simp [stage, stored, submitted, found, ended build found, integrationKitPhaseBuildSubmitted,
        integrationKitPhaseNone]

theorem stage_running (stored : store.kits.get name = some kit)
    (running : kit.status.phase = integrationKitPhaseBuildRunning) : store.stage name = 3 := by
  simp [stage, stored, running, integrationKitPhaseBuildRunning, integrationKitPhaseBuildSubmitted,
    integrationKitPhaseNone]

theorem stage_done (stored : store.kits.get name = some kit)
    (notUnset : kit.status.phase ≠ integrationKitPhaseNone)
    (notSubmitted : kit.status.phase ≠ integrationKitPhaseBuildSubmitted)
    (notRunning : kit.status.phase ≠ integrationKitPhaseBuildRunning) : store.stage name = 4 := by
  simp [stage, stored, notUnset, notSubmitted, notRunning]

end Store

/-! ## One pass of each handler -/

/-- The initialize action, when nothing fails, returns no error and leaves the
kit submitted, or ready when the composed kit names an image. -/
theorem initializeAction.handle_healthy {store next : Store} {kit : IntegrationKit}
    {events : List Event} {result : Except Error Unit}
    (found : store.kits.get kit.metadata.namespacedName = some kit)
    (exec : Exec (initializeAction.handle kit) store events result next)
    (healthy : events.all Event.healthy = true) :
    result = .ok () ∧ ∃ kit', next.kits.get kit.metadata.namespacedName = some kit' ∧
      (kit'.status.phase = integrationKitPhaseBuildSubmitted ∨
        kit'.status.phase = integrationKitPhaseReady) := by
  obtain ⟨path, responses⟩ := exec
  have missing {call : Call} {err : Error} (mem : (⟨call, .error err⟩ : Event) ∈ events) :
      call.Missing store :=
    responses.missing healthy mem
  rcases initializeAction.handle_path_cases path with ⟨err, rfl, -⟩ | ⟨err, rfl, -⟩ |
    ⟨env, spec, err, rfl, -⟩ | ⟨env, spec, version, err, rfl, -⟩ |
    ⟨env, spec, version, dgst, answer, rfl, rfl⟩
  · exact False.elim (missing (List.mem_cons_self _ _))
  · exact False.elim (missing (show (⟨.apply kit, .error err⟩ : Event) ∈ _ by simp))
  · have absent := missing (show (⟨.updateKit { kit with spec := spec }, .error err⟩ : Event) ∈ _ by
      simp)
    simp [Call.Missing, found] at absent
  · exact False.elim (missing (show (⟨.computeDigest (initializeAction.initialTarget
      (withResourceVersion { kit with spec := spec } version)), .error err⟩ : Event) ∈ _ by simp))
  rcases answer with err | written
  · have absent := missing (show (⟨.updateKitStatus { initializeAction.initialTarget
        (withResourceVersion { kit with spec := spec } version) with status.digest := dgst },
        .error err⟩ : Event) ∈ _ by simp)
    simp [Call.Missing, found] at absent
  refine ⟨rfl, withResourceVersion { initializeAction.initialTarget
    (withResourceVersion { kit with spec := spec } version) with status.digest := dgst } written,
    by simp [responses.kits_get, Event.kitWrite, found], ?_⟩
  simp only [IntegrationKit.withResourceVersion_eq, initializeAction.initialTarget_phase]
  split
  · exact .inl rfl
  · exact .inr rfl

/-- `informIntegrations`, when nothing fails, returns no error: every
integration it updates was listed, so is held, and no update answers NotFound. -/
theorem buildAction.informIntegrations_healthy {store next : Store} {kit : IntegrationKit}
    {events : List Event} {result : Except Error Unit}
    (exec : Exec (buildAction.informIntegrations kit) store events result next)
    (healthy : events.all Event.healthy = true) : result = .ok () := by
  obtain ⟨path, responses⟩ := exec
  obtain ⟨listed, rest, rfl, (⟨err, rfl, -, -⟩ | ⟨items, rfl, informing⟩)⟩ :=
    buildAction.informIntegrations_path_cases path
  · exact False.elim (responses.missing healthy (List.mem_cons_self _ _))
  obtain ⟨_, listing, -⟩ := responses_cons.mp responses
  obtain rfl := listing.listIntegrations_answer.2 items rfl
  rcases buildAction.informEach_path_cases informing with ⟨-, -, succeeded⟩ |
    ⟨failed, err, -, calls, -, last, -⟩
  · exact succeeded
  obtain ⟨⟨call, answer⟩, isLast, erred⟩ := Option.bind_eq_some.mp last
  have mem := List.mem_of_getLast?_eq_some isLast
  obtain rfl : answer = .error err := by
    cases answer <;> cases erred
    rfl
  obtain ⟨integration, taken, rfl⟩ := List.mem_map.mp (calls ▸ List.mem_map_of_mem Sigma.fst mem)
  have held : integration ∈ store.integrations.items :=
    (List.mem_filter.mp (List.mem_filter.mp (List.mem_of_mem_take taken)).1).1
  have absent : store.integrations.get (key integration) = none :=
    responses.missing healthy (List.mem_cons_of_mem _ mem)
  cases (Table.get_of_mem held).symm.trans absent

/-- The build action on a submitted kit, when nothing fails, returns no error
and: waits, the build in flight not running yet; marks the kit running, the
build running; or, no build being in flight, leaves one in flight. -/
theorem buildAction.handleBuildSubmitted_healthy {store next : Store} {kit : IntegrationKit}
    {events : List Event} {result : Except Error Unit}
    (found : store.kits.get kit.metadata.namespacedName = some kit)
    (exec : Exec (buildAction.handleBuildSubmitted kit) store events result next)
    (healthy : events.all Event.healthy = true) :
    result = .ok () ∧
      ((∃ build, store.builds.get kit.metadata.namespacedName = some build ∧
          ¬buildAction.Resubmits (.ok build) ∧ build.status.phase ≠ buildPhaseRunning ∧
          next = store ∧ ∀ event ∈ events, event.accepted = false) ∨
        (∃ build kit', store.builds.get kit.metadata.namespacedName = some build ∧
          build.status.phase = buildPhaseRunning ∧
          next.kits.get kit.metadata.namespacedName = some kit' ∧
          kit'.status.phase = integrationKitPhaseBuildRunning) ∨
        (store.NoBuildInFlight kit.metadata.namespacedName ∧
          next.kits.get kit.metadata.namespacedName = some kit ∧
          ∃ build, next.builds.get kit.metadata.namespacedName = some build ∧
            ¬buildAction.Resubmits (.ok build))) := by
  obtain ⟨path, responses⟩ := exec
  have missing {call : Call} {err : Error} (mem : (⟨call, .error err⟩ : Event) ∈ events) :
      call.Missing store :=
    responses.missing healthy mem
  obtain ⟨got, rest, rfl, cases⟩ := buildAction.handleBuildSubmitted_path_cases path
  obtain ⟨_, fetched, following⟩ := responses_cons.mp responses
  obtain ⟨same, storedOk, -⟩ := fetched.getBuild_answer
  subst same
  rcases cases with ⟨err, rfl, transient, -⟩ | ⟨resubmits, recreated, recreating, rfl⟩ |
    ⟨build, rfl, inFlight, marking⟩
  · exact absurd (Event.healthy_error (Event.healthy_of_mem healthy (List.mem_cons_self _ _))).2
      transient
  · rcases buildAction.recreateBuild_path_cases recreating with ⟨err, rfl, -⟩ |
      ⟨env, spec, noCatalog, rfl, -⟩ | ⟨env, spec, catalog, deleted, err, -, ignored, rfl, -⟩ |
      ⟨env, spec, catalog, deleted, err, -, -, rfl, -⟩ |
      ⟨env, spec, catalog, deleted, version, -, ignored, rfl, rfl⟩
    · exact False.elim (missing (show (⟨.apply kit, .error err⟩ : Event) ∈ _ by simp))
    · have cataloged : env.camelCatalog.isSome = true := Event.healthy_of_mem healthy
        (show (⟨.apply kit, .ok (env, spec)⟩ : Event) ∈ _ by simp)
      simp [noCatalog] at cataloged
    · obtain ⟨rfl, transient⟩ := ignoreNotFound_eq_error ignored
      exact absurd (Event.healthy_error (Event.healthy_of_mem healthy
        (show (⟨.deleteBuild (buildAction.ownedBuild { kit with spec := spec } env catalog),
          .error err⟩ : Event) ∈ _ by simp))).2 transient
    · exact False.elim (missing (show (⟨.createBuild (buildAction.ownedBuild
        { kit with spec := spec } env catalog), .error err⟩ : Event) ∈ _ by simp))
    · refine ⟨rfl, .inr (.inr ⟨fetched.noBuildInFlight resubmits, (responses.kits_get _).trans found,
        withResourceVersion (buildAction.ownedBuild { kit with spec := spec } env catalog) version,
        ?_, ?_⟩)⟩
      · rw [responses.builds_get]
        rcases ignoreNotFound_eq_ok ignored with rfl | ⟨_, rfl, _⟩ <;> simp [Event.buildWrite]
      · simp only [buildAction.Resubmits, Build.withResourceVersion_eq,
          buildAction.ownedBuild_status]
        decide
  · rcases buildAction.markBuildRunning_path_cases marking with
      ⟨running, err | version, rfl, rfl⟩ | ⟨notRunning, rfl, rfl⟩
    · have absent := missing (show (⟨.updateKitStatus
        { kit with status.phase := integrationKitPhaseBuildRunning }, .error err⟩ : Event) ∈ _ by simp)
      simp [Call.Missing, found] at absent
    · exact ⟨rfl, .inr (.inl ⟨build, withResourceVersion
        { kit with status.phase := integrationKitPhaseBuildRunning } version, storedOk build rfl,
        running, by simp [responses.kits_get, Event.kitWrite, found], rfl⟩)⟩
    · exact ⟨rfl, .inl ⟨build, storedOk build rfl, inFlight, notRunning,
        responses.unchanged_of_all_rejected rfl⟩⟩

/-- The build action on a running kit whose build is there, when nothing fails,
returns no error and: waits, the build not having ended; or, the build having
ended, leaves the kit ready or in error. -/
theorem buildAction.handleBuildRunning_healthy {store next : Store} {kit : IntegrationKit}
    {events : List Event} {result : Except Error Unit}
    (found : store.kits.get kit.metadata.namespacedName = some kit)
    (running : kit.status.phase = integrationKitPhaseBuildRunning)
    (built : (store.builds.get kit.metadata.namespacedName).isSome)
    (exec : Exec (buildAction.handleBuildRunning kit) store events result next)
    (healthy : events.all Event.healthy = true) :
    result = .ok () ∧ ∃ build, store.builds.get kit.metadata.namespacedName = some build ∧
      ((¬buildAction.Resubmits (.ok build) ∧ next = store ∧
          ∀ event ∈ events, event.accepted = false) ∨
        (buildAction.Resubmits (.ok build) ∧ ∃ kit', next.kits.get kit.metadata.namespacedName =
          some kit' ∧ (kit'.status.phase = integrationKitPhaseReady ∨
            kit'.status.phase = integrationKitPhaseError))) := by
  obtain ⟨path, responses⟩ := exec
  have missing {call : Call} {err : Error} (mem : (⟨call, .error err⟩ : Event) ∈ events) :
      call.Missing store :=
    responses.missing healthy mem
  obtain ⟨got, rest, rfl, cases⟩ := buildAction.handleBuildRunning_path_cases path
  obtain ⟨_, fetched, following⟩ := responses_cons.mp responses
  obtain ⟨same, storedOk, storedNotFound⟩ := fetched.getBuild_answer
  subst same
  rcases cases with ⟨err, rfl, rfl, rfl⟩ | ⟨build, rfl, succeeded, succeeding⟩ |
    ⟨build, rfl, failed, failing⟩ | ⟨build, rfl, notSucceeded, notError, notInterrupted, rfl, rfl⟩
  · have notFound := (Event.healthy_error (Event.healthy_of_mem healthy (List.mem_cons_self _ _))).2
    simp [storedNotFound err rfl notFound] at built
  · rcases buildAction.buildSucceeded_path_cases succeeding with ⟨notRunning, -⟩ |
      ⟨-, err, rfl, -⟩ | ⟨-, version, inform, rfl, informing⟩
    · exact absurd running notRunning
    · have absent := missing (show (⟨.updateKitStatus (buildAction.readyTarget kit build),
        .error err⟩ : Event) ∈ _ by simp)
      simp [Call.Missing, found] at absent
    obtain ⟨_, -, informed⟩ := responses_cons.mp following
    simp only [List.all_cons, Bool.and_eq_true] at healthy
    have writes := buildAction.informIntegrations_path_writes informing
    refine ⟨buildAction.informIntegrations_healthy ⟨informing, informed⟩ healthy.2.2, build,
      storedOk build rfl, .inr ⟨.inr (.inr succeeded),
        withResourceVersion (buildAction.readyTarget kit build) version, ?_, .inl rfl⟩⟩
    simp [responses.kits_get, Event.kitWrite, found,
      replayKit_of_calls fun event mem => (writes event mem).1]
  · rcases buildAction.buildFailed_path_cases failing with ⟨notRunning, -⟩ |
      ⟨-, err | version, rfl, rfl⟩
    · exact absurd running notRunning
    · have absent := missing (show (⟨.updateKitStatus (buildAction.errorTarget kit build),
        .error err⟩ : Event) ∈ _ by simp)
      simp [Call.Missing, found] at absent
    · exact ⟨rfl, build, storedOk build rfl, .inr ⟨failed.elim .inl (.inr ∘ .inl),
        withResourceVersion (buildAction.errorTarget kit build) version,
        by simp [responses.kits_get, Event.kitWrite, found], .inr rfl⟩⟩
  · refine ⟨rfl, build, storedOk build rfl, .inl ⟨?_, responses.unchanged_of_all_rejected rfl⟩⟩
    simp only [buildAction.Resubmits, not_or]
    exact ⟨notError, notInterrupted, notSucceeded⟩

/-! ## A pass -/

/-- A pass in which nothing fails, from a store where a running kit has its
build, returns no error; it either writes nothing, the kit being done or gone
or waiting for its build executor, or moves the kit to a later stage. -/
theorem reconcile_healthy_progress {name : NamespacedName} {store next : Store} {events : List Event}
    {result : Except Error Unit} (exec : Exec (reconcile name) store events result next)
    (healthy : events.all Event.healthy = true) (runningBuilt : store.RunningHasBuild name) :
    result = .ok () ∧
      ((next = store ∧ (∀ event ∈ events, event.accepted = false) ∧
          (store.stage name = 4 ∨ store.AwaitsExecutor name)) ∨
        store.stage name < next.stage name) := by
  obtain ⟨path, responses⟩ := exec
  obtain ⟨got, rest, rfl, cases⟩ := reconcile_path_cases path
  obtain ⟨middle, fetched, following⟩ := responses_cons.mp responses
  obtain ⟨same, storedOk, storedNotFound⟩ := fetched.getKit_answer
  rw [same] at following
  simp only [List.all_cons, Bool.and_eq_true] at healthy
  rcases cases with ⟨err, rfl, rfl, rfl⟩ | ⟨kit, rfl, unset, handling⟩ |
    ⟨kit, rfl, building, handling⟩ | ⟨kit, rfl, notUnset, notSubmitted, notRunning, rfl, rfl⟩
  · have notFound := (Event.healthy_error healthy.1).2
    obtain ⟨same, rejected⟩ := responses.unchanged_of_all_rejected rfl
    exact ⟨by simp [Error.isNotFound, notFound], .inl ⟨same, rejected,
      .inl (Store.stage_gone (storedNotFound err rfl notFound))⟩⟩
  all_goals
    have stored := storedOk kit rfl
    have named : kit.metadata.namespacedName = name := Table.key_of_get stored
    have found : store.kits.get kit.metadata.namespacedName = some kit := by rw [named]; exact stored
  · obtain ⟨ok, kit', stored', phase⟩ :=
      initializeAction.handle_healthy found ⟨handling, following⟩ healthy.2
    rw [named] at stored'
    refine ⟨ok, .inr ?_⟩
    rw [Store.stage_unset stored unset]
    exact Store.stage_pos stored' (by rcases phase with phase | phase <;> rw [phase] <;> decide)
  · have rejectedHead : Event.accepted ⟨.getKit name, .ok kit⟩ = false := rfl
    rcases buildAction.handle_path_cases handling with ⟨submitted, handling⟩ |
      ⟨running, handling⟩ | ⟨notSubmitted, notRunning, -⟩
    · obtain ⟨ok, outcome⟩ :=
        buildAction.handleBuildSubmitted_healthy found ⟨handling, following⟩ healthy.2
      refine ⟨ok, ?_⟩
      rw [named] at outcome
      rcases outcome with ⟨build, built, inFlight, notRunning, rfl, rejected⟩ |
        ⟨build, kit', built, runs, stored', phase⟩ | ⟨ended, kept, build, built, inFlight⟩
      · exact .inl ⟨rfl, List.forall_mem_cons.mpr ⟨rejectedHead, rejected⟩,
          .inr ⟨kit, build, stored, built, inFlight, .inl ⟨submitted, notRunning⟩⟩⟩
      · refine .inr ?_
        rw [Store.stage_submitted_inFlight stored submitted built (by simp [buildAction.Resubmits,
          runs, buildPhaseRunning, buildPhaseError, buildPhaseInterrupted, buildPhaseSucceeded]),
          Store.stage_running stored' phase]
        omega
      · refine .inr ?_
        rw [Store.stage_submitted_ended stored submitted ended,
          Store.stage_submitted_inFlight kept submitted built inFlight]
        omega
    · obtain ⟨ok, build, built, outcome⟩ := buildAction.handleBuildRunning_healthy found running
        (named ▸ runningBuilt kit stored running) ⟨handling, following⟩ healthy.2
      refine ⟨ok, ?_⟩
      rw [named] at built outcome
      rcases outcome with ⟨inFlight, rfl, rejected⟩ | ⟨-, kit', stored', phase⟩
      · exact .inl ⟨rfl, List.forall_mem_cons.mpr ⟨rejectedHead, rejected⟩,
          .inr ⟨kit, build, stored, built, inFlight, .inr running⟩⟩
      · refine .inr ?_
        rw [Store.stage_running stored running, Store.stage_done stored' ?_ ?_ ?_]
        · decide
        all_goals rcases phase with phase | phase <;> rw [phase] <;> decide
    · exact absurd building (not_or.mpr ⟨notSubmitted, notRunning⟩)
  · obtain ⟨same, rejected⟩ := responses.unchanged_of_all_rejected rfl
    exact ⟨rfl, .inl ⟨same, rejected, .inl (Store.stage_done stored notUnset notSubmitted notRunning)⟩⟩

/-- The pass on the kit of `builtStore` when nothing fails: it writes the kit
`Ready` and sets the waiting integration to `ResolvingKit`. -/
def builtPass : List Event :=
  [⟨.getKit builtKit.metadata.namespacedName, .ok (withResourceVersion builtKit 1)⟩,
    ⟨.getBuild builtKit.metadata.namespacedName, .ok (withResourceVersion builtBuild 2)⟩,
    ⟨.updateKitStatus (buildAction.readyTarget (withResourceVersion builtKit 1)
      (withResourceVersion builtBuild 2)), .ok 4⟩,
    ⟨.listIntegrations "default", .ok [withResourceVersion waitingIntegration 3]⟩,
    ⟨.updateIntegrationStatus { withResourceVersion waitingIntegration 3 with
      status.phase := integrationPhaseResolvingKit }, .ok 5⟩]

/-- The store after it. -/
def builtPassStore : Store :=
  readyStore.setIntegration { withResourceVersion waitingIntegration 3 with
    status.phase := integrationPhaseResolvingKit }

theorem builtPass_exec :
    Exec (reconcile builtKit.metadata.namespacedName) builtStore builtPass (.ok ()) builtPassStore :=
  ⟨.call (.call (.call (.call (.call (.done _))))),
    .cons (.serve rfl) (.cons (.serve rfl) (.cons (.serve rfl) (.cons (.serve rfl)
      (.cons (.serve rfl) (.nil _)))))⟩

/-- A pass that writes a running kit `Ready`, when nothing fails, sets every
integration waiting for the kit to `ResolvingKit`, up to resource versions,
and leaves the others as they were. -/
theorem healthy_ready_pass_informs {name : NamespacedName} {store next : Store}
    {events : List Event} {result : Except Error Unit} {kit kit' : IntegrationKit}
    (exec : Exec (reconcile name) store events result next)
    (healthy : events.all Event.healthy = true) (stored : store.kits.get name = some kit)
    (running : kit.status.phase = integrationKitPhaseBuildRunning)
    (stored' : next.kits.get name = some kit') (ready : kit'.status.phase = integrationKitPhaseReady)
    (other : NamespacedName) :
    (next.integrations.get other).map Integration.withoutVersion =
      (store.integrations.get other).map (Integration.withoutVersion ∘ informedBy [kit]) := by
  obtain ⟨build, version, inform, rfl, informing, -⟩ :=
    reconcile_ready_informs exec stored running stored' ready
  obtain ⟨_, fetched, following⟩ := responses_cons.mp exec.2
  obtain ⟨_, looked, following⟩ := responses_cons.mp following
  obtain ⟨middle, written, informed⟩ := responses_cons.mp following
  simp only [List.all_cons, Bool.and_eq_true] at healthy
  obtain rfl := buildAction.informIntegrations_healthy ⟨informing, informed⟩ healthy.2.2.2
  rw [informIntegrations_informs ⟨informing, informed⟩ other, written.integrations_get,
    (looked.getBuild_answer).1, (fetched.getKit_answer).1]
  rfl

theorem builtPass_informs :
    Exec (reconcile builtKit.metadata.namespacedName) builtStore builtPass (.ok ()) builtPassStore ∧
      builtPass.all Event.healthy = true ∧
      builtStore.kits.get builtKit.metadata.namespacedName = some (withResourceVersion builtKit 1) ∧
      (withResourceVersion builtKit 1).status.phase = integrationKitPhaseBuildRunning ∧
      builtPassStore.kits.get builtKit.metadata.namespacedName =
        some (withResourceVersion (buildAction.readyTarget (withResourceVersion builtKit 1)
          (withResourceVersion builtBuild 2)) 4) ∧
      (withResourceVersion (buildAction.readyTarget (withResourceVersion builtKit 1)
        (withResourceVersion builtBuild 2)) 4).status.phase = integrationKitPhaseReady ∧
      (builtPassStore.integrations.get waitingIntegration.metadata.namespacedName).map
          Integration.withoutVersion =
        (builtStore.integrations.get waitingIntegration.metadata.namespacedName).map
          (Integration.withoutVersion ∘ informedBy [withResourceVersion builtKit 1]) :=
  ⟨builtPass_exec, by decide, rfl, rfl, rfl, rfl,
    healthy_ready_pass_informs builtPass_exec (by decide) rfl rfl rfl rfl _⟩

/-! ## Runs -/

/-- A step that wrote: a pass a write of which the store accepted, or the build
executor. -/
def Label.writes : Label → Bool
  | .pass events _ => events.any Event.accepted
  | .executor _ => true

/-- Along a run of passes in which nothing fails, from a store where a running
kit has its build, every pass that writes moves the kit to a later stage. -/
theorem Run.healthy_stage_grows {name : NamespacedName} {store final : Store}
    {labels : List Label} (run : Run name store labels final)
    (passes : ∀ label ∈ labels, ∃ events result, label = .pass events result ∧
      events.all Event.healthy = true)
    (runningBuilt : store.RunningHasBuild name) :
    store.stage name + labels.countP Label.writes ≤ final.stage name := by
  induction run with
  | nil => simp
  | cons transition _ ih =>
      obtain ⟨events, result, rfl, healthy⟩ := passes _ (List.mem_cons_self _ _)
      cases transition with
      | pass exec =>
          have later := ih (fun label mem => passes label (List.mem_cons_of_mem _ mem))
            (reconcile_keeps_running_build exec runningBuilt)
          rcases (reconcile_healthy_progress exec healthy runningBuilt).2 with
            ⟨rfl, rejected, -⟩ | advanced
          · have silent : Label.writes (.pass events result) = false := by
              simpa [Label.writes] using rejected
            simp only [List.countP_cons, silent, Bool.false_eq_true, if_false]
            omega
          · simp only [List.countP_cons]
            split <;> omega

/-- When nothing fails, the controller makes progress and then stops writing.
A pass from a store where a running kit has its build returns no error, and
either writes nothing, the kit being done, gone or waiting for its build
executor, or moves the kit to a later stage; so along a run of such passes at
most four passes write, fewer the further the kit has come. -/
theorem healthy_passes_progress (name : NamespacedName) :
    (∀ store next events result, Exec (reconcile name) store events result next →
      events.all Event.healthy = true → store.RunningHasBuild name →
      result = .ok () ∧
        ((next = store ∧ (∀ event ∈ events, event.accepted = false) ∧
            (store.stage name = 4 ∨ store.AwaitsExecutor name)) ∨
          store.stage name < next.stage name)) ∧
      ∀ store labels final, Run name store labels final →
        (∀ label ∈ labels, ∃ events result, label = .pass events result ∧
          events.all Event.healthy = true) →
        store.RunningHasBuild name →
        store.stage name + labels.countP Label.writes ≤ final.stage name ∧
          labels.countP Label.writes ≤ 4 - store.stage name :=
  ⟨fun _ _ _ _ exec healthy runningBuilt => reconcile_healthy_progress exec healthy runningBuilt,
    fun _ _ final run passes runningBuilt =>
      have grows := run.healthy_stage_grows passes runningBuilt
      ⟨grows, by have := final.stage_le name; omega⟩⟩

theorem builtPass_progresses :
    Exec (reconcile builtKit.metadata.namespacedName) builtStore builtPass (.ok ()) builtPassStore ∧
      builtPass.all Event.healthy = true ∧
      builtStore.RunningHasBuild builtKit.metadata.namespacedName ∧
      builtStore.stage builtKit.metadata.namespacedName <
        builtPassStore.stage builtKit.metadata.namespacedName ∧
      Run builtKit.metadata.namespacedName builtStore [.pass builtPass (.ok ())] builtPassStore ∧
      [Label.pass builtPass (.ok ())].countP Label.writes ≤
        4 - builtStore.stage builtKit.metadata.namespacedName :=
  have run : Run builtKit.metadata.namespacedName builtStore [.pass builtPass (.ok ())]
      builtPassStore :=
    .cons (.pass builtPass_exec) (.nil _)
  have passes : ∀ label ∈ [Label.pass builtPass (.ok ())], ∃ events result,
      label = .pass events result ∧ events.all Event.healthy = true := by
    simp only [List.mem_singleton, forall_eq]
    exact ⟨builtPass, .ok (), rfl, by decide⟩
  have progress := healthy_passes_progress builtKit.metadata.namespacedName
  ⟨builtPass_exec, by decide, fun _ _ _ => rfl,
    ((progress.1 _ _ _ _ builtPass_exec (by decide) fun _ _ _ => rfl).2.resolve_left
      fun unchanged => absurd (congrArg Store.revision unchanged.1) (by decide)),
    run, (progress.2 _ _ _ run passes fun _ _ _ => rfl).2⟩

end CamelK
