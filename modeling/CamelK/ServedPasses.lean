import CamelK.KitIsolation

/-!
# A pass is refused only for another writer's change to its own objects

The store refuses an update from a stale resource version or of a missing
object, and a creation under a name it holds.  A pass answered by the store
itself meets neither unless, between two of its calls, another writer changed
the kit it reconciles, created the build named after it, or changed an
integration waiting for it: the initialize action writes the status from the
version its spec update was given back, the build action deletes the build
before it creates one and updates the kit it has just read, and
`informIntegrations` updates each listed integration once, from the version it
listed.  Steps of the build executor and calls that write no integration and
neither that kit nor that build change none of these.
-/

namespace CamelK

open Resource Prog

/-- The store answered every call of the sequence itself, no call failing for a
reason of its own; the collaborators answered anything. -/
inductive Served : Store → List Event → Store → Prop
  | nil (store : Store) : Served store [] store
  | serve {store next final : Store} {request : Call} {answer : Except Error request.Out}
      {events : List Event} :
      request.serve store = some (answer, next) → Served next events final →
        Served store (⟨request, answer⟩ :: events) final
  | collaborate {store final : Store} {request : Call} {answer : Except Error request.Out}
      {events : List Event} :
      request.serve store = none → Served store events final →
        Served store (⟨request, answer⟩ :: events) final

/-- A sequence the store served is one the model allows. -/
theorem Served.responses {store final : Store} {events : List Event}
    (served : Served store events final) : Responses store events final := by
  induction served with
  | nil => exact .nil _
  | serve serves _ ih => exact .cons (.serve serves) ih
  | collaborate unserved _ ih => exact .cons (.collaborate unserved) ih

/-- The calls of a pass answered as in `Served`, while steps of other writers
allowed by `Other` come before any call and after the last. -/
inductive ServedAmid (Other : Store → Store → Prop) : Store → List Event → Store → Prop
  | nil (store : Store) : ServedAmid Other store [] store
  | other {store middle final : Store} {events : List Event} :
      Other store middle → ServedAmid Other middle events final →
        ServedAmid Other store events final
  | serve {store next final : Store} {request : Call} {answer : Except Error request.Out}
      {events : List Event} :
      request.serve store = some (answer, next) → ServedAmid Other next events final →
        ServedAmid Other store (⟨request, answer⟩ :: events) final
  | collaborate {store final : Store} {request : Call} {answer : Except Error request.Out}
      {events : List Event} :
      request.serve store = none → ServedAmid Other store events final →
        ServedAmid Other store (⟨request, answer⟩ :: events) final

/-- A write the store refused: an update or a creation that failed, or a
deletion that failed for another reason than finding nothing. -/
def Event.refused : Event → Bool
  | ⟨.updateKit _, .error _⟩ | ⟨.updateKitStatus _, .error _⟩ | ⟨.createBuild _, .error _⟩
  | ⟨.updateIntegrationStatus _, .error _⟩ => true
  | ⟨.deleteBuild _, .error err⟩ => !err.isNotFound
  | _ => false

/-- A step of another writer that leaves alone what a pass on the kit under
`name` relies on: the kit, the absence of its build, and each integration of its
namespace waiting for it. -/
def KeepsOwn (name : NamespacedName) (store next : Store) : Prop :=
  next.kits.get name = store.kits.get name ∧
    (store.builds.get name = none → next.builds.get name = none) ∧
    ∀ held integration, store.integrations.get held = some integration →
      integration.metadata.namespace = name.namespace → integration.status.kit = name.name →
      next.integrations.get held = some integration

theorem KeepsOwn.refl (name : NamespacedName) (store : Store) : KeepsOwn name store store :=
  ⟨rfl, id, fun _ _ held _ _ => held⟩

theorem KeepsOwn.trans {name : NamespacedName} {store middle next : Store}
    (first : KeepsOwn name store middle) (second : KeepsOwn name middle next) :
    KeepsOwn name store next :=
  ⟨second.1.trans first.1, fun absent => second.2.1 (first.2.1 absent),
    fun held integration found inNamespace waiting =>
      second.2.2 held integration (first.2.2 held integration found inNamespace waiting)
        inNamespace waiting⟩

theorem KeepsOwn.of_steps {name : NamespacedName} {store next : Store}
    (steps : Relation.ReflTransGen (KeepsOwn name) store next) : KeepsOwn name store next := by
  induction steps with
  | refl => exact .refl _ _
  | tail _ step ih => exact ih.trans step

namespace ServedAmid

variable {Other : Store → Store → Prop} {store final : Store} {request : Call}
  {answer : Except Error request.Out} {events : List Event}

/-- A sequence the store served alone is served amid any other writers. -/
theorem of_served (served : Served store events final) : ServedAmid Other store events final := by
  induction served with
  | nil => exact .nil _
  | serve serves _ ih => exact .serve serves ih
  | collaborate unserved _ ih => exact .collaborate unserved ih

/-- A pass served amid other writers is an interleaved run of the program. -/
theorem interleaved {α : Type} {program : Prog α} {value : α}
    (served : ServedAmid Other store events final) (path : Path program events value) :
    ∃ entries, Prog.Interleaved Other program store entries value final ∧
      Prog.events entries = events := by
  induction served generalizing program with
  | nil => cases path; exact ⟨[], .done, rfl⟩
  | other step _ ih =>
      obtain ⟨entries, run, same⟩ := ih path
      exact ⟨.foreign _ _ :: entries, .foreign step run, same⟩
  | serve serves _ ih =>
      cases path with
      | call path =>
          obtain ⟨entries, run, same⟩ := ih path
          exact ⟨.pass _ _ _ :: entries, .call (.serve serves) run, congrArg (List.cons _) same⟩
  | collaborate unserved _ ih =>
      cases path with
      | call path =>
          obtain ⟨entries, run, same⟩ := ih path
          exact ⟨.pass _ _ _ :: entries, .call (.collaborate unserved) run,
            congrArg (List.cons _) same⟩

theorem others {before : Store} (steps : Relation.ReflTransGen Other store before)
    (following : ServedAmid Other before events final) : ServedAmid Other store events final := by
  induction steps using Relation.ReflTransGen.head_induction_on with
  | refl => exact following
  | head step _ ih => exact .other step ih

/-- The first call met the store as the other writers left it. -/
theorem head_cases (served : ServedAmid Other store (⟨request, answer⟩ :: events) final) :
    ∃ before, Relation.ReflTransGen Other store before ∧
      ((request.serve before = none ∧ ServedAmid Other before events final) ∨
        ∃ after, request.serve before = some (answer, after) ∧
          ServedAmid Other after events final) := by
  generalize listed : (⟨request, answer⟩ :: events : List Event) = all at served
  induction served with
  | nil => cases listed
  | other step _ ih =>
      obtain ⟨before, steps, first⟩ := ih listed
      exact ⟨before, .head step steps, first⟩
  | serve serves following =>
      cases listed
      exact ⟨_, .refl, .inr ⟨_, serves, following⟩⟩
  | collaborate unserved following =>
      cases listed
      exact ⟨_, .refl, .inl ⟨unserved, following⟩⟩

/-- The store's answer to a call of its own is the one it gives. -/
theorem head (served : ServedAmid Other store (⟨request, answer⟩ :: events) final) :
    ∃ before, Relation.ReflTransGen Other store before ∧
      ∀ expected after, request.serve before = some (expected, after) →
        answer = expected ∧ ServedAmid Other after events final := by
  obtain ⟨before, steps, ⟨unserved, -⟩ | ⟨after, serves, following⟩⟩ := served.head_cases
  · exact ⟨before, steps, fun _ _ serves => by rw [unserved] at serves; cases serves⟩
  · refine ⟨before, steps, fun expected after' serves' => ?_⟩
    rw [serves, Option.some.injEq, Prod.mk.injEq] at serves'
    obtain ⟨rfl, rfl⟩ := serves'
    exact ⟨rfl, following⟩

/-- A collaborator's answer leaves the store as it was. -/
theorem tail (served : ServedAmid Other store (⟨request, answer⟩ :: events) final)
    (unserved : ∀ store, request.serve store = none) : ServedAmid Other store events final := by
  obtain ⟨before, steps, ⟨-, following⟩ | ⟨_, serves, -⟩⟩ := served.head_cases
  · exact others steps following
  · rw [unserved] at serves; cases serves

/-- So does a read. -/
theorem read (served : ServedAmid Other store (⟨request, answer⟩ :: events) final)
    (reads : ∀ store, ∃ value, request.serve store = some (value, store)) :
    ServedAmid Other store events final := by
  obtain ⟨before, steps, answered⟩ := served.head
  obtain ⟨value, serves⟩ := reads before
  exact others steps (answered _ _ serves).2

end ServedAmid

section Own

variable {name : NamespacedName} {store final : Store} {events : List Event}

/-- The first call of a pass amid steps that keep its objects. -/
theorem ServedAmid.head_own {request : Call} {answer : Except Error request.Out}
    (served : ServedAmid (KeepsOwn name) store (⟨request, answer⟩ :: events) final) :
    ∃ before, KeepsOwn name store before ∧
      ∀ expected after, request.serve before = some (expected, after) →
        answer = expected ∧ ServedAmid (KeepsOwn name) after events final :=
  let ⟨before, steps, answered⟩ := served.head
  ⟨before, .of_steps steps, answered⟩

/-- A build delete the store served leaves no build under the name, and failed
at most for finding none. -/
theorem ServedAmid.deleteBuild {build : Build} {deleted : Except Error Unit}
    (served : ServedAmid (KeepsOwn name) store (⟨.deleteBuild build, deleted⟩ :: events) final) :
    ignoreNotFound deleted = .ok () ∧
      ∃ next, next.builds.get (key build) = none ∧ ServedAmid (KeepsOwn name) next events final := by
  obtain ⟨before, -, answered⟩ := served.head_own
  have named : key build = build.metadata.namespacedName := rfl
  cases held : before.builds.get (key build) with
  | none =>
      obtain ⟨rfl, following⟩ := answered _ _ (Call.serve_deleteBuild_absent held)
      exact ⟨by simp [ignoreNotFound, Error.isNotFound, Error.notFound], before, held, following⟩
  | some current =>
      rw [named] at held
      have serves : (Call.deleteBuild build).serve before =
          some (.ok (), before.eraseBuild (key build)) := by
        simp [Call.serve, Store.deleteBuild, held, Except.map, Store.answer]
      obtain ⟨rfl, following⟩ := answered _ _ serves
      exact ⟨rfl, _, by simp [Store.eraseBuild, Table.get_erase], following⟩

end Own

theorem Event.refused_deleteBuild {build : Build} {deleted : Except Error Unit}
    (kept : ignoreNotFound deleted = .ok ()) :
    Event.refused ⟨.deleteBuild build, deleted⟩ = false := by
  rcases ignoreNotFound_eq_ok kept with rfl | ⟨err, rfl, notFound⟩
  · rfl
  · simp [Event.refused, Error.isNotFound, notFound]

theorem Store.getKit_eq_ok {store : Store} {name : NamespacedName} {kit : IntegrationKit}
    (answered : Except.ok kit = store.getKit name) : store.kits.get name = some kit := by
  unfold Store.getKit at answered
  split at answered <;> cases answered
  assumption

/-! ## Each handler, amid steps that keep its objects -/

section Handlers

variable {kit : IntegrationKit} {store final : Store} {events : List Event}

theorem initializeAction.handle_amid {result : Except Error Unit}
    (path : Path (initializeAction.handle kit) events result)
    (served : ServedAmid (KeepsOwn (key kit)) store events final)
    (found : store.kits.get (key kit) = some kit) :
    events.all (fun event => !event.refused) = true := by
  rcases initializeAction.handle_path_cases path with ⟨_, rfl, -⟩ | ⟨_, rfl, -⟩ |
    ⟨env, spec, err, rfl, -⟩ | ⟨_, _, _, _, rfl, -⟩ | ⟨env, spec, version, dgst, answer, rfl, -⟩
  · rfl
  · rfl
  · obtain ⟨before, kept, answered⟩ := ((served.tail fun _ => rfl).tail fun _ => rfl).head_own
    cases (answered _ _ (Call.serve_updateKit kit (kept.1.trans found) rfl)).1
  · rfl
  · obtain ⟨before, kept, answered⟩ := ((served.tail fun _ => rfl).tail fun _ => rfl).head_own
    obtain ⟨⟨⟩, following⟩ := answered _ _ (Call.serve_updateKit kit (kept.1.trans found) rfl)
    obtain ⟨after, kept', answered'⟩ := (following.tail fun _ => rfl).head_own
    have stored : before.kits.get kit.metadata.namespacedName = some kit := kept.1.trans found
    obtain ⟨⟨⟩, -⟩ := answered' _ _ (Call.serve_updateKitStatus
      (withResourceVersion { kit with spec := spec } (before.revision + 1))
      (by simpa [Store.setKit, Table.get_set_eq, stored] using kept'.1) (by simp))
    rfl

theorem buildAction.recreateBuild_amid {result : Except Error (IntegrationKit × Build)}
    (path : Path (buildAction.recreateBuild kit) events result)
    (served : ServedAmid (KeepsOwn (key kit)) store events final) :
    events.all (fun event => !event.refused) = true := by
  rcases buildAction.recreateBuild_path_cases path with ⟨_, rfl, -⟩ | ⟨_, _, _, rfl, -⟩ |
    ⟨_, _, _, _, _, -, failed, rfl, -⟩ | ⟨_, _, _, _, _, -, -, rfl, -⟩ |
    ⟨_, _, _, _, _, -, kept, rfl, -⟩
  · rfl
  · rfl
  · cases failed.symm.trans (served.tail fun _ => rfl).deleteBuild.1
  · obtain ⟨-, next, absent, following⟩ := (served.tail fun _ => rfl).deleteBuild
    obtain ⟨before, kept, answered⟩ := following.head_own
    cases (answered _ _ (Call.serve_createBuild (kept.2.1 absent))).1
  · simp only [List.all_cons, List.all_nil, Event.refused_deleteBuild kept]
    rfl

theorem buildAction.markBuildRunning_amid {build : Build} {result : Except Error Unit}
    (path : Path (buildAction.markBuildRunning kit build) events result)
    (served : ServedAmid (KeepsOwn (key kit)) store events final)
    (found : store.kits.get (key kit) = some kit) :
    events.all (fun event => !event.refused) = true := by
  rcases buildAction.markBuildRunning_path_cases path with ⟨-, answer, rfl, -⟩ | ⟨-, rfl, -⟩
  · obtain ⟨before, kept, answered⟩ := served.head_own
    obtain ⟨rfl, -⟩ := answered _ _ (Call.serve_updateKitStatus kit (kept.1.trans found) rfl)
    rfl
  · rfl

theorem buildAction.handleBuildSubmitted_amid {result : Except Error Unit}
    (path : Path (buildAction.handleBuildSubmitted kit) events result)
    (served : ServedAmid (KeepsOwn (key kit)) store events final)
    (found : store.kits.get (key kit) = some kit) :
    events.all (fun event => !event.refused) = true := by
  obtain ⟨got, rest, rfl, cases⟩ := buildAction.handleBuildSubmitted_path_cases path
  have following := served.read fun _ => ⟨_, rfl⟩
  rcases cases with ⟨err, -, -, rfl, -⟩ | ⟨-, recreated, recreating, -⟩ | ⟨build, -, -, marking⟩
  · rfl
  · exact (buildAction.recreateBuild_amid recreating following :)
  · exact (buildAction.markBuildRunning_amid marking following found :)

/-- The loop of `informIntegrations` updates integrations of the kit's
namespace under names that differ, each waiting one held as listed: the store
accepts each update. -/
theorem buildAction.informEach_amid (kit : IntegrationKit) :
    ∀ (items : List Integration) {store final : Store} {events : List Event}
      {result : Except Error Unit}, (items.map key).Nodup →
      (∀ item ∈ items, item.metadata.namespace = kit.metadata.namespace) →
      (∀ item ∈ items, item.status.kit = kit.metadata.name →
        store.integrations.get (key item) = some item) →
      Path (buildAction.informEach kit items) events result →
      ServedAmid (KeepsOwn (key kit)) store events final →
      events.all (fun event => !event.refused) = true
  | [], _, _, _, _, _, _, _, path, _ => by
      obtain ⟨rfl, -⟩ := path_done.mp path
      rfl
  | item :: rest, store, _, _, _, distinct, inNamespace, held, path, served => by
      obtain ⟨fresh, distinct⟩ := List.nodup_cons.mp distinct
      have inNamespaceRest := fun listed mem => inNamespace listed (List.mem_cons_of_mem _ mem)
      unfold buildAction.informEach at path
      split at path
      case isTrue =>
        exact buildAction.informEach_amid kit rest distinct inNamespaceRest
          (fun listed mem => held listed (List.mem_cons_of_mem _ mem)) path served
      case isFalse waiting =>
        simp only [Client.updateIntegrationStatus, bind_eq, call_bind, done_bind,
          path_call] at path
        obtain ⟨answer, _, rfl, path⟩ := path
        obtain ⟨before, kept, answered⟩ := served.head_own
        have heldBefore : ∀ listed ∈ item :: rest, listed.status.kit = kit.metadata.name →
            before.integrations.get (key listed) = some listed := fun listed mem waits =>
          kept.2.2 _ listed (held listed mem waits) (inNamespace listed mem) waits
        obtain ⟨rfl, following⟩ := answered _ _ (Call.serve_resolvingKit
          (heldBefore item (List.mem_cons_self _ _) (not_not.mp waiting)))
        exact (buildAction.informEach_amid kit rest distinct inNamespaceRest
          (fun listed mem waits => Store.setIntegration_get_of_ne
            { item with status.phase := integrationPhaseResolvingKit }
            (fun same => fresh (same ▸ List.mem_map_of_mem _ mem))
            (heldBefore listed (List.mem_cons_of_mem _ mem) waits))
          path following :)

theorem buildAction.informIntegrations_amid {result : Except Error Unit}
    (path : Path (buildAction.informIntegrations kit) events result)
    (served : ServedAmid (KeepsOwn (key kit)) store events final) :
    events.all (fun event => !event.refused) = true := by
  obtain ⟨listed, rest, rfl, ⟨err, rfl, rfl, -⟩ | ⟨items, rfl, informing⟩⟩ :=
    buildAction.informIntegrations_path_cases path
  · rfl
  · obtain ⟨before, -, answered⟩ := served.head_own
    obtain ⟨⟨⟩, following⟩ := answered _ _ rfl
    exact (buildAction.informEach_amid kit _
      (before.integrations.nodup.sublist ((List.filter_sublist _).map _))
      (fun item mem => of_decide_eq_true (List.mem_filter.mp mem).2)
      (fun item mem _ => Table.get_of_mem (List.mem_filter.mp mem).1) informing following :)

theorem buildAction.buildSucceeded_amid {build : Build} {result : Except Error Unit}
    (path : Path (buildAction.buildSucceeded kit build) events result)
    (served : ServedAmid (KeepsOwn (key kit)) store events final)
    (found : store.kits.get (key kit) = some kit) :
    events.all (fun event => !event.refused) = true := by
  rcases buildAction.buildSucceeded_path_cases path with ⟨-, rfl, -⟩ | ⟨-, err, rfl, -⟩ |
    ⟨-, version, rest, rfl, informing⟩
  · rfl
  · obtain ⟨before, kept, answered⟩ := served.head_own
    cases (answered _ _ (Call.serve_updateKitStatus kit (kept.1.trans found) rfl)).1
  · obtain ⟨before, kept, answered⟩ := served.head_own
    obtain ⟨⟨⟩, following⟩ := answered _ _ (Call.serve_updateKitStatus kit (kept.1.trans found) rfl)
    exact (buildAction.informIntegrations_amid informing following :)

theorem buildAction.buildFailed_amid {build : Build} {result : Except Error Unit}
    (path : Path (buildAction.buildFailed kit build) events result)
    (served : ServedAmid (KeepsOwn (key kit)) store events final)
    (found : store.kits.get (key kit) = some kit) :
    events.all (fun event => !event.refused) = true := by
  rcases buildAction.buildFailed_path_cases path with ⟨-, rfl, -⟩ | ⟨-, answer, rfl, -⟩
  · rfl
  · obtain ⟨before, kept, answered⟩ := served.head_own
    obtain ⟨rfl, -⟩ := answered _ _ (Call.serve_updateKitStatus kit (kept.1.trans found) rfl)
    rfl

theorem buildAction.handleBuildRunning_amid {result : Except Error Unit}
    (path : Path (buildAction.handleBuildRunning kit) events result)
    (served : ServedAmid (KeepsOwn (key kit)) store events final)
    (found : store.kits.get (key kit) = some kit) :
    events.all (fun event => !event.refused) = true := by
  obtain ⟨got, rest, rfl, cases⟩ := buildAction.handleBuildRunning_path_cases path
  have following := served.read fun _ => ⟨_, rfl⟩
  rcases cases with ⟨err, -, rfl, -⟩ | ⟨build, -, -, succeeding⟩ | ⟨build, -, -, failing⟩ |
    ⟨build, -, -, -, -, rfl, -⟩
  · rfl
  · exact (buildAction.buildSucceeded_amid succeeding following found :)
  · exact (buildAction.buildFailed_amid failing following found :)
  · rfl

theorem buildAction.handle_amid {result : Except Error Unit}
    (path : Path (buildAction.handle kit) events result)
    (served : ServedAmid (KeepsOwn (key kit)) store events final)
    (found : store.kits.get (key kit) = some kit) :
    events.all (fun event => !event.refused) = true := by
  rcases buildAction.handle_path_cases path with ⟨-, submitting⟩ | ⟨-, running⟩ | ⟨-, -, rfl, -⟩
  · exact buildAction.handleBuildSubmitted_amid submitting served found
  · exact buildAction.handleBuildRunning_amid running served found
  · rfl

end Handlers

/-- A pass answered by the store itself, amid steps that keep its objects, is
never refused a write. -/
theorem reconcile_amid_never_refused {name : NamespacedName} {store final : Store}
    {events : List Event} {result : Except Error Unit}
    (path : Path (reconcile name) events result)
    (served : ServedAmid (KeepsOwn name) store events final) :
    events.all (fun event => !event.refused) = true := by
  obtain ⟨got, rest, rfl, cases⟩ := reconcile_path_cases path
  obtain ⟨before, -, answered⟩ := served.head_own
  obtain ⟨fetched, following⟩ := answered _ _ rfl
  have found : ∀ kit, got = .ok kit → before.kits.get (key kit) = some kit ∧ key kit = name :=
    fun kit read => by
      have stored := Store.getKit_eq_ok (read ▸ fetched)
      rw [Table.key_of_get stored]
      exact ⟨stored, rfl⟩
  rcases cases with ⟨err, -, rfl, -⟩ | ⟨kit, rfl, -, handling⟩ | ⟨kit, rfl, -, handling⟩ |
    ⟨kit, -, -, -, -, rfl, -⟩
  · rfl
  · obtain ⟨stored, named⟩ := found kit rfl
    rw [← named] at following
    exact (initializeAction.handle_amid handling following stored :)
  · obtain ⟨stored, named⟩ := found kit rfl
    rw [← named] at following
    exact (buildAction.handle_amid handling following stored :)
  · rfl

/-- A pass that runs alone, the store answering each of its calls itself, is
never refused a write: no update meets a conflict or a missing object, no
creation finds its name taken, and a deletion fails at most for finding
nothing.  The refusals of optimistic concurrency come only from other writers. -/
theorem pass_alone_never_refused (name : NamespacedName) {store final : Store}
    {events : List Event} {result : Except Error Unit}
    (path : Path (reconcile name) events result) (served : Served store events final) :
    events.all (fun event => !event.refused) = true :=
  reconcile_amid_never_refused path (.of_served served)

theorem builtPass_never_refused :
    Path (reconcile builtKit.metadata.namespacedName) builtPass (.ok ()) ∧
      Served builtStore builtPass builtPassStore ∧
      builtPass.all (fun event => !event.refused) = true :=
  have served : Served builtStore builtPass builtPassStore :=
    .serve rfl (.serve rfl (.serve rfl (.serve rfl (.serve rfl (.nil _)))))
  ⟨builtPass_exec.1, served, pass_alone_never_refused _ builtPass_exec.1 served⟩

/-! ## The steps that keep a pass's objects -/

theorem Event.integrationWrite_of_silent {event : Event} (silent : event.1.writesIntegration = false)
    (name : NamespacedName) : event.integrationWrite name = id := by
  obtain ⟨call, answer⟩ := event
  cases call <;> first | rfl | cases silent

theorem Store.writeBuildStatus_keepsOwn {store next : Store} {build : NamespacedName}
    {status : BuildStatus} (written : store.writeBuildStatus build status = some next)
    (name : NamespacedName) : KeepsOwn name store next :=
  ⟨by rw [Store.writeBuildStatus_kits written],
    fun absent => by simpa [absent] using Store.writeBuildStatus_builds written name,
    fun _ _ held _ _ => by rwa [Store.writeBuildStatus_integrations written]⟩

theorem Responds.keepsOwn {store next : Store} {call : Call} {answer : Except Error call.Out}
    {name : NamespacedName} (responds : Responds store call answer next)
    (silent : call.writesIntegration = false) (apart : call.written ≠ some name) :
    KeepsOwn name store next :=
  ⟨by rw [responds.kits_get, Event.kitWrite_of_ne apart]; rfl,
    fun absent => by rw [responds.builds_get, Event.buildWrite_of_ne apart, absent]; rfl,
    fun held _ found _ _ => by
      rw [responds.integrations_get, Event.integrationWrite_of_silent silent]
      exact found⟩

/-- A pass is refused a write only when, between two of its calls, another
writer changed the kit it reconciles, created the build named after it, or
changed an integration of its namespace waiting for it: amid steps that do none
of these, the store answering its calls itself, no write of the pass is
refused.  The build executor writing the status of any build is such a step, and
so is every call that writes no integration and neither that kit nor that build,
those of a pass on another kit among them. -/
theorem pass_refused_only_for_own_objects (name : NamespacedName) :
    (∀ store events result final, Path (reconcile name) events result →
      ServedAmid (KeepsOwn name) store events final →
      events.all (fun event => !event.refused) = true) ∧
      (∀ store build status next, store.writeBuildStatus build status = some next →
        KeepsOwn name store next) ∧
      ∀ store call answer next, Responds store call answer next →
        call.writesIntegration = false → call.written ≠ some name → KeepsOwn name store next :=
  ⟨fun _ _ _ _ path served => reconcile_amid_never_refused path served,
    fun _ _ _ _ written => Store.writeBuildStatus_keepsOwn written name,
    fun _ _ _ _ responds silent apart => responds.keepsOwn silent apart⟩

/-- The pass of `builtPass` with the build executor writing the status of the
kit's build between the kit's status write and the listing: the integration
update then answers a later version. -/
def interleavedPass : List Event :=
  [⟨.getKit builtKit.metadata.namespacedName, .ok (withResourceVersion builtKit 1)⟩,
    ⟨.getBuild builtKit.metadata.namespacedName, .ok (withResourceVersion builtBuild 2)⟩,
    ⟨.updateKitStatus (buildAction.readyTarget (withResourceVersion builtKit 1)
      (withResourceVersion builtBuild 2)), .ok 4⟩,
    ⟨.listIntegrations "default", .ok [withResourceVersion waitingIntegration 3]⟩,
    ⟨.updateIntegrationStatus { withResourceVersion waitingIntegration 3 with
      status.phase := integrationPhaseResolvingKit }, .ok 6⟩]

theorem interleavedPass_never_refused :
    Path (reconcile builtKit.metadata.namespacedName) interleavedPass (.ok ()) ∧
      (∃ final, ServedAmid (KeepsOwn builtKit.metadata.namespacedName) builtStore interleavedPass
        final) ∧
      interleavedPass.all (fun event => !event.refused) = true ∧
      Responds builtStore (.getKit ⟨"default", "other"⟩)
        (.error (.notFound (Resource.resource IntegrationKit) ⟨"default", "other"⟩)) builtStore ∧
      KeepsOwn builtKit.metadata.namespacedName builtStore builtStore :=
  have path : Path (reconcile builtKit.metadata.namespacedName) interleavedPass (.ok ()) :=
    .call (.call (.call (.call (.call (.done _)))))
  have served : ServedAmid (KeepsOwn builtKit.metadata.namespacedName) builtStore
      interleavedPass _ :=
    .serve rfl (.serve rfl (.serve rfl (.other
      ((pass_refused_only_for_own_objects _).2.1 _ builtKit.metadata.namespacedName {} _ rfl)
      (.serve rfl (.serve rfl (.nil _))))))
  have read : Responds builtStore (.getKit ⟨"default", "other"⟩)
      (.error (.notFound (Resource.resource IntegrationKit) ⟨"default", "other"⟩)) builtStore :=
    .serve rfl
  ⟨path, ⟨_, served⟩, (pass_refused_only_for_own_objects _).1 _ _ _ _ path served, read,
    (pass_refused_only_for_own_objects _).2.2 _ _ _ _ read rfl (by decide)⟩

end CamelK
