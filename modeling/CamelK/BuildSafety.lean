import CamelK.KitStatus

/-!
# At most one build in flight

The build action replaces the build of a submitted kit only when the fetch of
the build answered NotFound or a build that ended; a build that runs, or that
was just created and has no phase yet, is left alone.  So between two changes
of the build's status at most one build is created.  And a kit is moved to
`BuildRunning` only on a build that runs and is kept, and a pass on a running
kit deletes nothing: a running kit always has its build, and the NotFound
failure of `handleBuildRunning`'s fetch cannot happen.
-/

namespace CamelK

open Resource Prog

/-! ## Which passes write builds -/

/-- The initialize action writes no build and no integration. -/
theorem initializeAction.handle_path_writes {kit : IntegrationKit} {events : List Event}
    {result : Except Error Unit} (path : Path (initializeAction.handle kit) events result) :
    ∀ event ∈ events, event.1.writesBuild = false := by
  rcases initializeAction.handle_path_cases path with ⟨_, rfl, -⟩ | ⟨_, rfl, -⟩ |
    ⟨_, _, _, rfl, -⟩ | ⟨_, _, _, _, rfl, -⟩ | ⟨_, _, _, _, _, rfl, -⟩ <;>
    exact of_decide_eq_true rfl

/-- Every build write of a pass, under any answers: the pass read a submitted
kit, its fetch of the build answered NotFound or a build that ended, and the
pass composed the kit and deletes, then creates, the build it owns. -/
theorem reconcile_buildWrite_cases {name : NamespacedName} {events : List Event}
    {result : Except Error Unit} (path : Path (reconcile name) events result) :
    (∀ event ∈ events, event.1.writesBuild = false) ∨
      ∃ kit got env spec catalog deleted rest,
        events = ⟨.getKit name, .ok kit⟩ :: ⟨.getBuild kit.metadata.namespacedName, got⟩ ::
          ⟨.apply kit, .ok (env, spec)⟩ ::
          ⟨.deleteBuild (buildAction.ownedBuild { kit with spec := spec } env catalog), deleted⟩ ::
          rest ∧
        kit.status.phase = integrationKitPhaseBuildSubmitted ∧ buildAction.Resubmits got ∧
        env.camelCatalog = some catalog ∧
        (rest = [] ∨ ∃ created, rest =
          [⟨.createBuild (buildAction.ownedBuild { kit with spec := spec } env catalog), created⟩]) := by
  obtain ⟨got, rest, rfl, cases⟩ := reconcile_path_cases path
  rcases cases with ⟨_, -, rfl, -⟩ | ⟨kit, rfl, -, handling⟩ | ⟨kit, rfl, -, handling⟩ |
    ⟨_, -, -, -, -, rfl, -⟩
  · exact .inl (of_decide_eq_true rfl)
  · exact .inl (by simpa [Call.writesBuild] using initializeAction.handle_path_writes handling)
  rcases buildAction.handle_path_cases handling with ⟨submitted, handling⟩ |
    ⟨-, handling⟩ | ⟨-, -, rfl, -⟩
  · obtain ⟨got, rest, rfl, (⟨_, rfl, -, rfl, -⟩ | ⟨resubmits, _, recreating, -⟩ |
      ⟨build, rfl, -, marking⟩)⟩ := buildAction.handleBuildSubmitted_path_cases handling
    · exact .inl (of_decide_eq_true rfl)
    · rcases buildAction.recreateBuild_path_cases recreating with ⟨_, rfl, -⟩ |
        ⟨_, _, -, rfl, -⟩ | ⟨env, spec, catalog, deleted, _, some, -, rfl, -⟩ |
        ⟨env, spec, catalog, deleted, err, some, -, rfl, -⟩ |
        ⟨env, spec, catalog, deleted, version, some, -, rfl, -⟩
      · exact .inl (of_decide_eq_true rfl)
      · exact .inl (of_decide_eq_true rfl)
      · exact .inr ⟨kit, got, env, spec, catalog, deleted, [], rfl, submitted, resubmits, some,
          .inl rfl⟩
      · exact .inr ⟨kit, got, env, spec, catalog, deleted, _, rfl, submitted, resubmits, some,
          .inr ⟨_, rfl⟩⟩
      · exact .inr ⟨kit, got, env, spec, catalog, deleted, _, rfl, submitted, resubmits, some,
          .inr ⟨_, rfl⟩⟩
    · rcases buildAction.markBuildRunning_path_cases marking with ⟨-, _, rfl, -⟩ | ⟨-, rfl, -⟩ <;>
        exact .inl (of_decide_eq_true rfl)
  · refine .inl ?_
    obtain ⟨got, rest, rfl, (⟨_, rfl, rfl, -⟩ | ⟨build, rfl, -, succeeding⟩ |
      ⟨build, rfl, -, failing⟩ | ⟨_, rfl, -, -, -, rfl, -⟩)⟩ :=
      buildAction.handleBuildRunning_path_cases handling
    · exact of_decide_eq_true rfl
    · rcases buildAction.buildSucceeded_path_cases succeeding with ⟨-, rfl, -⟩ |
        ⟨-, _, rfl, -⟩ | ⟨-, _, _, rfl, informing⟩
      · exact of_decide_eq_true rfl
      · exact of_decide_eq_true rfl
      · simpa [Call.writesBuild] using
          fun event mem => (buildAction.informIntegrations_path_writes informing event mem).2
    · rcases buildAction.buildFailed_path_cases failing with ⟨-, rfl, -⟩ | ⟨-, _, rfl, -⟩ <;>
        exact of_decide_eq_true rfl
    · exact of_decide_eq_true rfl
  · exact .inl (of_decide_eq_true rfl)
  · exact .inl (of_decide_eq_true rfl)

/-! ## At most one creation -/

/-- A build creation the store accepted. -/
def Event.createsBuild : Event → Bool
  | ⟨.createBuild _, .ok _⟩ => true
  | _ => false

/-- The builds a step of a run created. -/
def Label.createdBuilds : Label → Nat
  | .pass events _ => events.countP Event.createsBuild
  | .executor _ => 0

/-- The builds the steps of a run created, all together. -/
def Label.runCreatedBuilds : List Label → Nat
  | [] => 0
  | label :: labels => label.createdBuilds + runCreatedBuilds labels

def Label.isPass : Label → Bool
  | .pass _ _ => true
  | .executor _ => false

/-- No build is in flight under `name`: there is none, or the one there ended,
so that a pass on a submitted kit would replace it. -/
def Store.NoBuildInFlight (store : Store) (name : NamespacedName) : Prop :=
  ∀ build, store.builds.get name = some build → buildAction.Resubmits (.ok build)

theorem Event.createsBuild_of_writesBuild {event : Event} (other : event.1.writesBuild = false) :
    event.createsBuild = false := by
  obtain ⟨call, answer⟩ := event
  cases call <;> first | rfl | cases other

/-- A fetch on which the build action resubmits found no build in flight. -/
theorem Responds.noBuildInFlight {store next : Store} {name : NamespacedName}
    {got : Except Error Build} (responds : Responds store (.getBuild name) got next)
    (resubmits : buildAction.Resubmits got) : store.NoBuildInFlight name := by
  obtain ⟨-, storedOk, storedNotFound⟩ := responds.getBuild_answer
  intro build stored
  rcases got with err | fetched
  · simp [storedNotFound err rfl resubmits] at stored
  · cases stored.symm.trans (storedOk fetched rfl)
    exact resubmits

/-- A pass creates at most one build, and only when no build was in flight; the
build it creates is in flight, and a build in flight stays so. -/
theorem reconcile_created_builds {name : NamespacedName} {store next : Store}
    {events : List Event} {result : Except Error Unit}
    (exec : Exec (reconcile name) store events result next) :
    (events.countP Event.createsBuild = 0 ∧
        (¬store.NoBuildInFlight name → ¬next.NoBuildInFlight name)) ∨
      (events.countP Event.createsBuild = 1 ∧ store.NoBuildInFlight name ∧
        ¬next.NoBuildInFlight name) := by
  obtain ⟨path, responses⟩ := exec
  rcases reconcile_buildWrite_cases path with others |
    ⟨kit, got, env, spec, catalog, deleted, rest, rfl, -, resubmits, -, created⟩
  · refine .inl ⟨List.countP_eq_zero.mpr fun event mem => by
      simp [Event.createsBuild_of_writesBuild (others event mem)], fun inFlight => ?_⟩
    unfold Store.NoBuildInFlight
    rwa [responses.builds_get, replayBuild_of_calls others]
  obtain ⟨stored, following⟩ := responses.getKit_head
  obtain ⟨middle, fetched, -⟩ := responses_cons.mp following
  have ended := fetched.noBuildInFlight resubmits
  have named : kit.metadata.namespacedName = name := Table.key_of_get stored
  rw [named] at ended
  rcases created with rfl | ⟨err | version, rfl⟩
  · exact .inl ⟨rfl, absurd ended⟩
  · exact .inl ⟨rfl, absurd ended⟩
  · refine .inr ⟨rfl, ended, fun settled => ?_⟩
    have created : next.builds.get name = some (withResourceVersion
        (buildAction.ownedBuild { kit with spec := spec } env catalog) version) := by
      rw [responses.builds_get, ← named]
      rcases deleted with _ | ⟨⟩ <;> simp [Event.buildWrite]
    rcases settled _ created with phase | phase | phase <;>
      simp only [Build.withResourceVersion_eq, buildAction.ownedBuild_status] at phase <;>
      exact absurd phase (by decide)

/-- With nobody else changing build statuses, the passes of a run create at
most one build, and none while a build is in flight. -/
theorem Run.createdBuilds_le {name : NamespacedName} {store final : Store}
    {labels : List Label} (run : Run name store labels final)
    (passes : ∀ label ∈ labels, label.isPass = true) :
    Label.runCreatedBuilds labels ≤ 1 ∧
      (¬store.NoBuildInFlight name → Label.runCreatedBuilds labels = 0) := by
  induction run with
  | nil => exact ⟨Nat.zero_le _, fun _ => rfl⟩
  | cons transition _ ih =>
      simp only [List.mem_cons, forall_eq_or_imp] at passes
      obtain ⟨later, laterNone⟩ := ih passes.2
      cases transition with
      | executor => cases passes.1
      | pass exec =>
          simp only [Label.runCreatedBuilds, Label.createdBuilds]
          rcases reconcile_created_builds exec with ⟨none, kept⟩ | ⟨one, ended, inFlight⟩
          · rw [none]
            exact ⟨by omega, fun inFlight => by rw [laterNone (kept inFlight)]⟩
          · rw [one, laterNone inFlight]
            exact ⟨le_rfl, absurd ended⟩

/-- The build action replaces a build only on a fetch that answered NotFound
or a build that ended: a pass that deletes or creates a build read a submitted
kit and such an answer, so a build that runs, has no phase yet or any other
phase is never replaced; and in a run where nobody else changes the build's
status, at most one build creation succeeds. -/
theorem builds_replaced_only_when_ended (name : NamespacedName) :
    (∀ events result, Path (reconcile name) events result →
      (∀ event ∈ events, event.1.writesBuild = false) ∨
        ∃ kit got rest, events = ⟨.getKit name, .ok kit⟩ ::
            ⟨.getBuild kit.metadata.namespacedName, got⟩ :: rest ∧
          kit.status.phase = integrationKitPhaseBuildSubmitted ∧ buildAction.Resubmits got) ∧
      (∀ store labels final, Run name store labels final →
        (∀ label ∈ labels, label.isPass = true) → Label.runCreatedBuilds labels ≤ 1) := by
  refine ⟨fun events result path => ?_, fun _ _ _ run passes => (run.createdBuilds_le passes).1⟩
  rcases reconcile_buildWrite_cases path with others |
    ⟨kit, got, _, _, _, _, _, rfl, submitted, resubmits, -⟩
  · exact .inl others
  · exact .inr ⟨kit, got, _, rfl, submitted, resubmits⟩

/-! ## A running kit keeps its build -/

/-- Every kit stored as `BuildRunning` under `name` has its build in the store. -/
def Store.RunningHasBuild (store : Store) (name : NamespacedName) : Prop :=
  ∀ kit, store.kits.get name = some kit → kit.status.phase = integrationKitPhaseBuildRunning →
    (store.builds.get name).isSome

theorem Store.writeBuildStatus_builds {store next : Store} {name : NamespacedName}
    {status : BuildStatus} (written : store.writeBuildStatus name status = some next)
    (other : NamespacedName) :
    (next.builds.get other).isSome = (store.builds.get other).isSome := by
  obtain ⟨held, found, rfl⟩ := Option.map_eq_some'.mp written
  simp only [Store.setBuild, Table.get_set_eq]
  split <;> simp

/-- A pass that moves the kit to `BuildRunning` wrote no build and read the
build of the kit, running, from the store. -/
theorem reconcile_enters_running {name : NamespacedName} {store next : Store}
    {events : List Event} {result : Except Error Unit} {kit kit' : IntegrationKit}
    (exec : Exec (reconcile name) store events result next)
    (stored : store.kits.get name = some kit) (stored' : next.kits.get name = some kit')
    (before : kit.status.phase ≠ integrationKitPhaseBuildRunning)
    (after : kit'.status.phase = integrationKitPhaseBuildRunning) :
    (∀ event ∈ events, event.1.writesBuild = false) ∧
      ∃ build, ⟨.getBuild name, .ok build⟩ ∈ events ∧ store.builds.get name = some build ∧
        build.status.phase = buildPhaseRunning := by
  rcases reconcile_exec_cases exec with ⟨rfl, -⟩ | ⟨read, rest, stored'', named, rfl, handler⟩
  · cases stored.symm.trans stored'
    exact absurd after before
  cases stored.symm.trans stored''
  subst named
  rcases handler with ⟨unset, handling⟩ | ⟨-, handling⟩ | ⟨running, -⟩
  · rcases initializeAction.handle_exec_cases stored handling with ⟨rfl, -⟩ |
      ⟨env, spec, version, -, -, -, -, ⟨-, -, kits⟩ | ⟨-, dgst, written, -, -, kits⟩⟩
    · cases stored.symm.trans stored'
      exact absurd after before
    · cases stored'.symm.trans kits
      exact absurd (unset.symm.trans after) (by decide)
    · cases stored'.symm.trans kits
      by_cases image : spec.image = "" <;> simp [image] at after <;>
        exact absurd after (by decide)
  · rcases buildAction.handleBuildSubmitted_exec_cases stored handling with ⟨rfl, -⟩ |
      ⟨_, _, _, _, _, _, -, -, -, -, -, -, -, -, kits, -⟩ |
      ⟨_, _, _, _, _, _, -, -, -, -, -, -, -, kits, -⟩ |
      ⟨build, _, found, running, rfl, -⟩
    · cases stored.symm.trans stored'
      exact absurd after before
    · cases stored'.symm.trans ((kits _).trans stored)
      exact absurd after before
    · cases stored'.symm.trans ((kits _).trans stored)
      exact absurd after before
    · exact ⟨of_decide_eq_true rfl, build, by simp, found, running⟩
  · exact absurd running before

/-- A pass keeps the build of a running kit: passes on a running kit write no
build, and a pass moves a kit to `BuildRunning` only on a build it found. -/
theorem reconcile_keeps_running_build {name : NamespacedName} {store next : Store}
    {events : List Event} {result : Except Error Unit}
    (exec : Exec (reconcile name) store events result next)
    (invariant : store.RunningHasBuild name) : next.RunningHasBuild name := by
  intro kit' stored' after
  obtain ⟨kit, stored, -⟩ := reconcile_kit_status exec stored'
  have others : (∀ event ∈ events, event.1.writesBuild = false) ∧
      (store.builds.get name).isSome := by
    by_cases before : kit.status.phase = integrationKitPhaseBuildRunning
    · refine ⟨?_, invariant kit stored before⟩
      rcases reconcile_buildWrite_cases exec.1 with others |
        ⟨read, _, _, _, _, _, _, rfl, submitted, -⟩
      · exact others
      · cases stored.symm.trans exec.2.getKit_head.1
        exact absurd (before.symm.trans submitted) (by decide)
    · obtain ⟨others, build, -, found, -⟩ := reconcile_enters_running exec stored stored' before after
      exact ⟨others, by simp [found]⟩
  rw [exec.2.builds_get, replayBuild_of_calls others.1]
  exact others.2

/-- A fetch of the build of a running kit, in a store where running kits have
their build, never answers NotFound. -/
theorem handleBuildRunning_fetch_found {name : NamespacedName} {store next : Store}
    {kit : IntegrationKit} {events : List Event} {result : Except Error Unit}
    (invariant : store.RunningHasBuild name) (stored : store.kits.get name = some kit)
    (running : kit.status.phase = integrationKitPhaseBuildRunning)
    (exec : Exec (buildAction.handleBuildRunning kit) store events result next) :
    ∃ got rest, events = ⟨.getBuild name, got⟩ :: rest ∧
      ∀ err, got = .error err → err.reason ≠ .notFound := by
  have named : kit.metadata.namespacedName = name := Table.key_of_get stored
  obtain ⟨got, rest, rfl, -⟩ := buildAction.handleBuildRunning_path_cases exec.1
  obtain ⟨_, fetched, -⟩ := responses_cons.mp exec.2
  obtain ⟨-, -, storedNotFound⟩ := fetched.getBuild_answer
  refine ⟨got, rest, by rw [named], fun err failed notFound => ?_⟩
  have absent := storedNotFound err failed notFound
  rw [named] at absent
  simpa [absent] using invariant kit stored running

/-- With passes serialized and builds deleted by nobody but the build action, a
running kit always has its build: a pass moves a kit to `BuildRunning` only
when it wrote no build and read the build running in the store, a pass on a
running kit writes no build, and along every run from a store where running
kits have their build, they keep having it, so the fetch of
`handleBuildRunning` never answers NotFound. -/
theorem running_kit_keeps_build (name : NamespacedName) :
    (∀ store events result next kit kit', Exec (reconcile name) store events result next →
      store.kits.get name = some kit → next.kits.get name = some kit' →
      kit.status.phase ≠ integrationKitPhaseBuildRunning →
      kit'.status.phase = integrationKitPhaseBuildRunning →
      (∀ event ∈ events, event.1.writesBuild = false) ∧
        ∃ build, ⟨.getBuild name, .ok build⟩ ∈ events ∧ store.builds.get name = some build ∧
          build.status.phase = buildPhaseRunning) ∧
      (∀ events result kit rest, Path (reconcile name) events result →
        events = ⟨.getKit name, .ok kit⟩ :: rest →
        kit.status.phase = integrationKitPhaseBuildRunning →
        ∀ event ∈ events, event.1.writesBuild = false) ∧
      (∀ store labels final, Run name store labels final → store.RunningHasBuild name →
        final.RunningHasBuild name ∧
          ∀ kit events result next, final.kits.get name = some kit →
            kit.status.phase = integrationKitPhaseBuildRunning →
            Exec (buildAction.handleBuildRunning kit) final events result next →
            ∃ got rest, events = ⟨.getBuild name, got⟩ :: rest ∧
              ∀ err, got = .error err → err.reason ≠ .notFound) := by
  refine ⟨fun _ _ _ _ _ _ exec stored stored' before after =>
      reconcile_enters_running exec stored stored' before after, ?_, ?_⟩
  · intro events result kit rest path read running
    rcases reconcile_buildWrite_cases path with others |
      ⟨_, _, _, _, _, _, _, rfl, submitted, -⟩
    · exact others
    · cases read
      exact absurd (running.symm.trans submitted) (by decide)
  · intro store labels final run initial
    have kept : final.RunningHasBuild name := by
      induction run with
      | nil => exact initial
      | cons transition _ ih =>
          cases transition with
          | pass exec => exact ih (reconcile_keeps_running_build exec initial)
          | executor _ written =>
              refine ih fun kit stored running => ?_
              rw [Store.writeBuildStatus_kits written] at stored
              rw [Store.writeBuildStatus_builds written]
              exact initial kit stored running
    exact ⟨kept, fun _ _ _ _ stored running exec =>
      handleBuildRunning_fetch_found kept stored running exec⟩

end CamelK
