import CamelK.BuildSafety

/-!
# Informing the integrations of a ready kit

Once a build succeeded and the kit is written `Ready`, `informIntegrations`
lists the integrations of the kit's namespace and sets every one that names the
kit to `ResolvingKit`, in list order, stopping at the first failed update.  This
file states what one call issues, what a sequence of successful calls leaves in
the store, and what becomes of the integrations a failed call did not reach.
-/

namespace CamelK

open Resource Prog

/-! ## A kit and an integration waiting for it -/

/-- A kit whose build succeeded, its build, which the kit controls, and an
integration waiting for the kit. -/
def builtKit : IntegrationKit :=
  { metadata := { «namespace» := "default", name := "example" }
    status := { phase := integrationKitPhaseBuildRunning } }

@[inherit_doc builtKit]
def builtBuild : Build :=
  { metadata :=
      { «namespace» := "default", name := "example",
        ownerReferences := [⟨"IntegrationKit", "example", true⟩] }
    status := { phase := buildPhaseSucceeded } }

@[inherit_doc builtKit]
def waitingIntegration : Integration :=
  { metadata := { «namespace» := "default", name := "route" }
    status := { kit := "example" } }

/-- The store once the three were created. -/
def builtStore : Store :=
  ((Store.empty.insertKit builtKit).insertBuild builtBuild).insertIntegration waitingIntegration

/-! ## The updates of one call -/

/-- Every path of `informIntegrations`: a failed listing issues no update;
otherwise the updates go to the listed integrations that name the kit, in list
order, each the listed integration set to `ResolvingKit`, all of them when each
one succeeds, and up to the first failure otherwise. -/
theorem informIntegrations_issues_updates {kit : IntegrationKit} {events : List Event}
    {result : Except Error Unit} (path : Path (buildAction.informIntegrations kit) events result) :
    ∃ listed rest, events = ⟨.listIntegrations kit.metadata.namespace, listed⟩ :: rest ∧
      ((∃ err, listed = .error err ∧ rest = [] ∧ result = .error err) ∨
        ∃ items, listed = .ok items ∧
          ((rest.map Sigma.fst =
              (items.filter fun integration => integration.status.kit = kit.metadata.name).map
                (fun integration => .updateIntegrationStatus
                  { integration with status.phase := integrationPhaseResolvingKit }) ∧
              (∀ event ∈ rest, event.error? = none) ∧ result = .ok ()) ∨
            ∃ failed err,
              failed < (items.filter fun integration =>
                integration.status.kit = kit.metadata.name).length ∧
              rest.map Sigma.fst =
                ((items.filter fun integration => integration.status.kit = kit.metadata.name).take
                  (failed + 1)).map (fun integration => .updateIntegrationStatus
                    { integration with status.phase := integrationPhaseResolvingKit }) ∧
              (∀ event ∈ rest.dropLast, event.error? = none) ∧
              rest.getLast?.bind Event.error? = some err ∧ result = .error err)) := by
  obtain ⟨listed, rest, rfl, listing⟩ := buildAction.informIntegrations_path_cases path
  refine ⟨listed, rest, rfl, ?_⟩
  rcases listing with failed | ⟨items, rfl, informing⟩
  · exact .inl failed
  · exact .inr ⟨items, rfl, buildAction.informEach_path_cases informing⟩

/-- The call for the kit of the store: it lists the waiting integration and
updates it. -/
def informEvents : List Event :=
  [⟨.listIntegrations "default", .ok [withResourceVersion waitingIntegration 3]⟩,
    ⟨.updateIntegrationStatus { withResourceVersion waitingIntegration 3 with
      status.phase := integrationPhaseResolvingKit }, .ok 4⟩]

/-- The store after it. -/
def informedStore : Store :=
  builtStore.setIntegration { withResourceVersion waitingIntegration 3 with
    status.phase := integrationPhaseResolvingKit }

theorem informEvents_exec :
    Exec (buildAction.informIntegrations builtKit) builtStore informEvents (.ok ()) informedStore :=
  ⟨.call (.call (.done _)), .cons (.serve rfl) (.cons (.serve rfl) (.nil _))⟩

/-- The answer of a server that cannot take the request for now. -/
def unavailable : Error :=
  ⟨.unknown, "the server is currently unable to handle the request"⟩

/-- An integration of the namespace that names another kit, whose name extends
the kit's. -/
def strangerIntegration : Integration :=
  { metadata := { «namespace» := "default", name := "stranger" }
    status := { kit := "examples" } }

/-- A second integration waiting for the kit. -/
def secondIntegration : Integration :=
  { metadata := { «namespace» := "default", name := "route-2" }
    status := { kit := "example" } }

/-- A call for the kit that lists both waiting integrations and the other one,
updates the first and fails to update the second. -/
def mixedEvents : List Event :=
  [⟨.listIntegrations "default",
      .ok [waitingIntegration, strangerIntegration, secondIntegration]⟩,
    ⟨.updateIntegrationStatus { waitingIntegration with
      status.phase := integrationPhaseResolvingKit }, .ok 4⟩,
    ⟨.updateIntegrationStatus { secondIntegration with
      status.phase := integrationPhaseResolvingKit }, .error unavailable⟩]

theorem builtKit_informs_waiting :
    Path (buildAction.informIntegrations builtKit) mixedEvents (.error unavailable) ∧
      ([waitingIntegration, strangerIntegration, secondIntegration].filter fun integration =>
        integration.status.kit = builtKit.metadata.name) = [waitingIntegration, secondIntegration] ∧
      ∃ listed rest,
        mixedEvents = ⟨.listIntegrations builtKit.metadata.namespace, listed⟩ :: rest ∧
        ((∃ err, listed = .error err ∧ rest = [] ∧
            (.error unavailable : Except Error Unit) = .error err) ∨
          ∃ items, listed = .ok items ∧
            ((rest.map Sigma.fst =
                (items.filter fun integration =>
                  integration.status.kit = builtKit.metadata.name).map
                  (fun integration => .updateIntegrationStatus
                    { integration with status.phase := integrationPhaseResolvingKit }) ∧
                (∀ event ∈ rest, event.error? = none) ∧
                (.error unavailable : Except Error Unit) = .ok ()) ∨
              ∃ failed err,
                failed < (items.filter fun integration =>
                  integration.status.kit = builtKit.metadata.name).length ∧
                rest.map Sigma.fst =
                  ((items.filter fun integration =>
                    integration.status.kit = builtKit.metadata.name).take (failed + 1)).map
                    (fun integration => .updateIntegrationStatus
                      { integration with status.phase := integrationPhaseResolvingKit }) ∧
                (∀ event ∈ rest.dropLast, event.error? = none) ∧
                rest.getLast?.bind Event.error? = some err ∧
                (.error unavailable : Except Error Unit) = .error err)) :=
  have path : Path (buildAction.informIntegrations builtKit) mixedEvents (.error unavailable) :=
    .call (.call (.call (.done _)))
  ⟨path, rfl, informIntegrations_issues_updates path⟩

/-! ## What successful calls leave in the store -/

/-- The integration with its resource version cleared: two integrations with
the same `withoutVersion` differ at most in their version. -/
def Integration.withoutVersion (integration : Integration) : Integration :=
  { integration with metadata.resourceVersion := 0 }

/-- The integration waits for the kit: it is in the kit's namespace and names it. -/
def Integration.waitsFor (integration : Integration) (kit : IntegrationKit) : Bool :=
  integration.metadata.namespace == kit.metadata.namespace &&
    integration.status.kit == kit.metadata.name

/-- The integration once the kits have been announced: `ResolvingKit` when it
waits for one of them, as it was otherwise. -/
def informedBy (kits : List IntegrationKit) (integration : Integration) : Integration :=
  if kits.any integration.waitsFor then
    { integration with status.phase := integrationPhaseResolvingKit }
  else integration

@[simp]
theorem Integration.withoutVersion_withResourceVersion (integration : Integration)
    (version : Nat) :
    (withResourceVersion integration version).withoutVersion = integration.withoutVersion :=
  rfl

@[simp]
theorem Integration.waitsFor_withoutVersion (integration : Integration) :
    integration.withoutVersion.waitsFor = integration.waitsFor :=
  rfl

@[simp]
theorem informedBy_withoutVersion (kits : List IntegrationKit) (integration : Integration) :
    (informedBy kits integration).withoutVersion = informedBy kits integration.withoutVersion := by
  unfold informedBy
  rw [Integration.waitsFor_withoutVersion]
  split <;> rfl

theorem informedBy_nil : informedBy [] = id :=
  rfl

@[simp]
theorem Integration.waitsFor_resolving (integration : Integration) :
    { integration with status.phase := integrationPhaseResolvingKit }.waitsFor =
      integration.waitsFor :=
  rfl

/-- Announcing one kit and then others is announcing them all. -/
@[simp]
theorem informedBy_informedBy (kit : IntegrationKit) (kits : List IntegrationKit)
    (integration : Integration) :
    informedBy kits (informedBy [kit] integration) = informedBy (kit :: kits) integration := by
  unfold informedBy
  cases waiting : integration.waitsFor kit <;> cases any : kits.any integration.waitsFor <;>
    simp [waiting, any]

/-- What announcing kits does depends only on which kits they are, not on their
order or repetitions. -/
theorem informedBy_congr {kits kits' : List IntegrationKit} (same : ∀ kit, kit ∈ kits ↔ kit ∈ kits') :
    informedBy kits = informedBy kits' := by
  funext integration
  have any : kits.any integration.waitsFor = kits'.any integration.waitsFor :=
    Bool.eq_iff_iff.mpr (by simp only [List.any_eq_true, same])
  simp only [informedBy, any]

/-- The replay of status updates setting distinct integrations to
`ResolvingKit`, each one accepted on the integration it was computed from. -/
theorem replayIntegration_resolving {name : NamespacedName} {targets : List Integration}
    (distinct : (targets.map key).Nodup) {events : List Event}
    (calls : events.map Sigma.fst = targets.map fun target =>
      .updateIntegrationStatus { target with status.phase := integrationPhaseResolvingKit })
    (succeeded : ∀ event ∈ events, event.error? = none) {held : Option Integration}
    (agree : ∀ target ∈ targets, key target = name → held = some target) :
    (replayIntegration name events held).map Integration.withoutVersion =
      held.map fun integration => Integration.withoutVersion
        (if targets.any (key · = name) then
          { integration with status.phase := integrationPhaseResolvingKit }
        else integration) := by
  induction targets generalizing events held with
  | nil =>
      obtain rfl : events = [] := List.map_eq_nil_iff.mp calls
      simp
  | cons target targets ih =>
      obtain ⟨⟨call, answer⟩, events, rfl⟩ : ∃ event rest, events = event :: rest := by
        cases events with
        | nil => cases calls
        | cons event rest => exact ⟨event, rest, rfl⟩
      simp only [List.map_cons, List.cons.injEq] at calls
      obtain ⟨rfl, calls⟩ := calls
      obtain ⟨version, rfl⟩ : ∃ version, answer = .ok version := by
        cases answer with
        | error err => cases succeeded _ (List.mem_cons_self _ _)
        | ok version => exact ⟨version, rfl⟩
      have fresh := (List.nodup_cons.mp distinct).1
      rw [replayIntegration_cons]
      by_cases named : key target = name
      · obtain rfl := agree target (List.mem_cons_self _ _) named
        have others : targets.any (key · = name) = false := by
          simpa [← named] using fun other mem same => fresh (List.mem_map.mpr ⟨other, mem, same⟩)
        have written : Event.integrationWrite name ⟨.updateIntegrationStatus
            { target with status.phase := integrationPhaseResolvingKit }, .ok version⟩ (some target) =
            some (withResourceVersion
              { target with status.phase := integrationPhaseResolvingKit } version) := by
          dsimp only [Event.integrationWrite]
          split
          · rfl
          · exact absurd named ‹_›
        rw [written, ih (List.nodup_cons.mp distinct).2 calls
          (fun event mem => succeeded event (List.mem_cons_of_mem _ mem))
          (fun other mem same => absurd (named ▸ same) (fun same =>
            fresh (List.mem_map.mpr ⟨other, mem, same⟩))), others]
        simp only [List.any_cons, decide_eq_true named, Bool.true_or, Option.map_some',
          Bool.false_eq_true, ite_false, ite_true, Integration.withoutVersion_withResourceVersion]
      · have untouched : Event.integrationWrite name ⟨.updateIntegrationStatus
            { target with status.phase := integrationPhaseResolvingKit }, .ok version⟩ held = held := by
          dsimp only [Event.integrationWrite]
          split
          · exact absurd ‹_› named
          · rfl
        rw [untouched, ih (List.nodup_cons.mp distinct).2 calls
          (fun event mem => succeeded event (List.mem_cons_of_mem _ mem))
          (fun other mem => agree other (List.mem_cons_of_mem _ mem))]
        simp only [List.any_cons, decide_eq_false named, Bool.false_or]

/-- A listed integration waits for the kit exactly when it names it, and the
listing holds each integration of the namespace once. -/
theorem waiting_listed_iff {store : Store} {kit : IntegrationKit} {name : NamespacedName}
    {integration : Integration} (stored : store.integrations.get name = some integration) :
    ((store.integrations.list kit.metadata.namespace).filter
        (fun integration => integration.status.kit = kit.metadata.name)).any (key · = name) =
      integration.waitsFor kit := by
  have named : key integration = name := Table.key_of_get stored
  refine Bool.eq_iff_iff.mpr ⟨fun listed => ?_, fun waiting => ?_⟩
  · obtain ⟨other, mem, same⟩ := List.any_eq_true.mp listed
    simp only [Table.list, List.mem_filter, decide_eq_true_eq] at mem same
    cases stored.symm.trans (same ▸ Table.get_of_mem mem.1.1)
    simp only [Integration.waitsFor, Bool.and_eq_true, beq_iff_eq]
    exact ⟨mem.1.2, mem.2⟩
  · simp only [Integration.waitsFor, Bool.and_eq_true, beq_iff_eq] at waiting
    exact List.any_eq_true.mpr ⟨integration, List.mem_filter.mpr ⟨List.mem_filter.mpr
      ⟨Table.mem_of_get stored, decide_eq_true waiting.1⟩, decide_eq_true waiting.2⟩,
      decide_eq_true named⟩

/-- One successful `informIntegrations` sets, up to resource versions, exactly
the integrations waiting for the kit to `ResolvingKit`. -/
theorem informIntegrations_informs {kit : IntegrationKit} {store next : Store}
    {events : List Event} (exec : Exec (buildAction.informIntegrations kit) store events (.ok ()) next)
    (name : NamespacedName) :
    (next.integrations.get name).map Integration.withoutVersion =
      (store.integrations.get name).map (Integration.withoutVersion ∘ informedBy [kit]) := by
  obtain ⟨path, responses⟩ := exec
  obtain ⟨listed, rest, rfl, listing⟩ := buildAction.informIntegrations_path_cases path
  rcases listing with ⟨_, -, -, ⟨⟩⟩ | ⟨items, rfl, informing⟩
  obtain ⟨_, listedAnswer, following⟩ := responses_cons.mp responses
  obtain ⟨same, listedItems⟩ := listedAnswer.listIntegrations_answer
  rw [same] at following
  obtain rfl := listedItems items rfl
  rcases buildAction.informEach_path_cases informing with ⟨calls, succeeded, -⟩ |
    ⟨_, _, -, -, -, -, ⟨⟩⟩
  have distinct : (((store.integrations.list kit.metadata.namespace).filter
      (fun integration => integration.status.kit = kit.metadata.name)).map key).Nodup :=
    store.integrations.nodup.sublist (((List.filter_sublist _).trans (List.filter_sublist _)).map _)
  have agree : ∀ target ∈ (store.integrations.list kit.metadata.namespace).filter
      (fun integration => integration.status.kit = kit.metadata.name),
      key target = name → store.integrations.get name = some target := by
    intro target mem named
    simp only [Table.list, List.mem_filter] at mem
    exact named ▸ Table.get_of_mem mem.1.1
  rw [following.integrations_get, replayIntegration_resolving distinct calls succeeded agree]
  cases stored : store.integrations.get name with
  | none => rfl
  | some integration =>
      simp only [Option.map_some', Function.comp_apply, waiting_listed_iff stored, informedBy,
        List.any_cons, List.any_nil, Bool.or_false]

/-- Successive calls of `informIntegrations` for a sequence of kits, each one
succeeding, with nothing else writing in between. -/
inductive InformRun : Store → List IntegrationKit → Store → Prop
  | nil (store : Store) : InformRun store [] store
  | cons {store next final : Store} {kit : IntegrationKit} {kits : List IntegrationKit}
      {events : List Event} :
      Exec (buildAction.informIntegrations kit) store events (.ok ()) next →
      InformRun next kits final → InformRun store (kit :: kits) final

theorem InformRun.integrations_get {store final : Store} {kits : List IntegrationKit}
    (run : InformRun store kits final) (name : NamespacedName) :
    (final.integrations.get name).map Integration.withoutVersion =
      (store.integrations.get name).map (Integration.withoutVersion ∘ informedBy kits) := by
  induction run with
  | nil => simp [informedBy_nil]
  | @cons store next final kit kits _ exec _ ih =>
      calc (final.integrations.get name).map Integration.withoutVersion
          = ((next.integrations.get name).map Integration.withoutVersion).map
              (informedBy kits) := by simp [ih, Function.comp_def]
        _ = ((store.integrations.get name).map
              (Integration.withoutVersion ∘ informedBy [kit])).map (informedBy kits) := by
            rw [informIntegrations_informs exec]
        _ = (store.integrations.get name).map
              (Integration.withoutVersion ∘ informedBy (kit :: kits)) := by
            simp [Function.comp_def]

/-- Successful calls of `informIntegrations` for any sequence of kits leave the
integrations as they were up to resource versions, but with `ResolvingKit` on
exactly those that wait for one of the kits; so the result depends neither on
the order of the calls nor on repetitions. -/
theorem informing_sets_resolving {store final : Store} {kits : List IntegrationKit}
    (run : InformRun store kits final) :
    (∀ name, (final.integrations.get name).map Integration.withoutVersion =
      (store.integrations.get name).map (Integration.withoutVersion ∘ informedBy kits)) ∧
      ∀ kits' final', InformRun store kits' final' → (∀ kit, kit ∈ kits ↔ kit ∈ kits') →
        ∀ name, (final'.integrations.get name).map Integration.withoutVersion =
          (final.integrations.get name).map Integration.withoutVersion := by
  refine ⟨run.integrations_get, fun kits' final' run' same name => ?_⟩
  rw [run.integrations_get, run'.integrations_get, informedBy_congr same]

/-- A second call for the kit, on the store the first one left: it lists the
integration, now `ResolvingKit`, and updates it once more. -/
def reinformEvents : List Event :=
  [⟨.listIntegrations "default", .ok [withResourceVersion { withResourceVersion waitingIntegration 3
      with status.phase := integrationPhaseResolvingKit } 4]⟩,
    ⟨.updateIntegrationStatus { withResourceVersion { withResourceVersion waitingIntegration 3
      with status.phase := integrationPhaseResolvingKit } 4 with
      status.phase := integrationPhaseResolvingKit }, .ok 5⟩]

theorem reinformEvents_exec :
    ∃ next, Exec (buildAction.informIntegrations builtKit) informedStore reinformEvents (.ok ())
      next :=
  ⟨_, .call (.call (.done _)), .cons (.serve rfl) (.cons (.serve rfl) (.nil _))⟩

/-- Calling the kit twice leaves the integrations as one call does, up to
resource versions. -/
theorem builtKit_informing_run :
    ∃ final, InformRun builtStore [builtKit, builtKit] final ∧
      (∀ name, (final.integrations.get name).map Integration.withoutVersion =
        (builtStore.integrations.get name).map
          (Integration.withoutVersion ∘ informedBy [builtKit, builtKit])) ∧
      InformRun builtStore [builtKit] informedStore ∧
      (∀ kit, kit ∈ [builtKit, builtKit] ↔ kit ∈ [builtKit]) ∧
      ∀ name, (informedStore.integrations.get name).map Integration.withoutVersion =
        (final.integrations.get name).map Integration.withoutVersion := by
  obtain ⟨final, reinforming⟩ := reinformEvents_exec
  have twice : InformRun builtStore [builtKit, builtKit] final :=
    .cons informEvents_exec (.cons reinforming (.nil _))
  have once : InformRun builtStore [builtKit] informedStore := .cons informEvents_exec (.nil _)
  have same : ∀ kit, kit ∈ [builtKit, builtKit] ↔ kit ∈ [builtKit] := by simp
  obtain ⟨informed, independent⟩ := informing_sets_resolving twice
  exact ⟨final, twice, informed, once, same, independent _ _ once same⟩

/-! ## A ready kit informs once -/

/-- A pass that moves a running kit to `Ready` wrote the `Ready` status right
after reading the build and then ran `informIntegrations` on the written kit:
the integrations it changed are those that call changed. -/
theorem reconcile_ready_informs {name : NamespacedName} {store next : Store}
    {events : List Event} {result : Except Error Unit} {kit kit' : IntegrationKit}
    (exec : Exec (reconcile name) store events result next)
    (stored : store.kits.get name = some kit)
    (running : kit.status.phase = integrationKitPhaseBuildRunning)
    (stored' : next.kits.get name = some kit') (ready : kit'.status.phase = integrationKitPhaseReady) :
    ∃ build version inform, events = ⟨.getKit name, .ok kit⟩ :: ⟨.getBuild name, .ok build⟩ ::
        ⟨.updateKitStatus (buildAction.readyTarget kit build), .ok version⟩ :: inform ∧
      Path (buildAction.informIntegrations
        (withResourceVersion (buildAction.readyTarget kit build) version)) inform result ∧
      ∀ other, next.integrations.get other =
        replayIntegration other inform (store.integrations.get other) := by
  rcases reconcile_exec_cases exec with ⟨rfl, -⟩ | ⟨read, rest, stored'', named, rfl, handler⟩
  · cases stored.symm.trans stored'
    exact absurd (running.symm.trans ready) (by decide)
  cases stored.symm.trans stored''
  subst named
  rcases handler with ⟨unset, -⟩ | ⟨submitted, -⟩ | ⟨-, handling⟩
  · exact absurd (running.symm.trans unset) (by decide)
  · exact absurd (running.symm.trans submitted) (by decide)
  rcases buildAction.handleBuildRunning_exec_cases stored handling with ⟨rfl, -⟩ |
    ⟨build, version, inform, -, -, -, rfl, informing, -, -, integrations⟩ |
    ⟨build, version, -, -, -, -, -, kits, -⟩
  · cases stored.symm.trans stored'
    exact absurd (running.symm.trans ready) (by decide)
  · exact ⟨build, version, inform, rfl, informing, integrations⟩
  · cases stored'.symm.trans kits
    exact absurd ready (by simp; decide)

/-- From a store where the kit is `Ready`, nothing of a run writes: the kit and
the integrations stay as they are, and no pass makes a write call. -/
theorem Run.ready_kit_stays {name : NamespacedName} {store final : Store} {labels : List Label}
    (run : Run name store labels final) {kit : IntegrationKit}
    (stored : store.kits.get name = some kit) (ready : kit.status.phase = integrationKitPhaseReady) :
    final.kits.get name = some kit ∧ final.integrations = store.integrations ∧
      ∀ events result, Label.pass events result ∈ labels →
        ∀ event ∈ events, event.1.isWrite = false := by
  induction run with
  | nil => exact ⟨stored, rfl, fun _ _ => nofun⟩
  | cons transition _ ih =>
      cases transition with
      | pass exec =>
          obtain ⟨rfl, silent⟩ := reconcile_exec_of_unhandled exec stored
            (by rw [ready]; decide) (by rw [ready]; decide) (by rw [ready]; decide)
          obtain ⟨kept, integrations, later⟩ := ih stored
          refine ⟨kept, integrations, fun events' result' mem => ?_⟩
          rcases List.mem_cons.mp mem with same | mem
          · obtain ⟨rfl, rfl⟩ := Label.pass.inj same
            exact silent
          · exact later _ _ mem
      | executor _ written =>
          obtain ⟨kept, integrations, later⟩ :=
            ih (by rwa [Store.writeBuildStatus_kits written])
          refine ⟨kept, integrations.trans (Store.writeBuildStatus_integrations written),
            fun events result mem => later events result ?_⟩
          simpa using mem

/-- The integrations waiting for a kit hear of it only from the pass that
writes it `Ready`: that pass writes `Ready`, then runs `informIntegrations`
on the written kit, which updates the waiting integrations it lists up to its
first failure, and the integrations change only by those updates; from then on
no pass on the kit writes anything, so an integration whose update failed is
never set to `ResolvingKit` by the kit's controller. -/
theorem ready_kit_informs_once (name : NamespacedName) :
    (∀ store events result next kit kit', Exec (reconcile name) store events result next →
      store.kits.get name = some kit → kit.status.phase = integrationKitPhaseBuildRunning →
      next.kits.get name = some kit' → kit'.status.phase = integrationKitPhaseReady →
      ∃ build version inform, events = ⟨.getKit name, .ok kit⟩ :: ⟨.getBuild name, .ok build⟩ ::
          ⟨.updateKitStatus (buildAction.readyTarget kit build), .ok version⟩ :: inform ∧
        Path (buildAction.informIntegrations
          (withResourceVersion (buildAction.readyTarget kit build) version)) inform result ∧
        ∀ other, next.integrations.get other =
          replayIntegration other inform (store.integrations.get other)) ∧
      (∀ store labels final kit, Run name store labels final →
        store.kits.get name = some kit → kit.status.phase = integrationKitPhaseReady →
        final.kits.get name = some kit ∧ final.integrations = store.integrations ∧
          ∀ events result, Label.pass events result ∈ labels →
            ∀ event ∈ events, event.1.isWrite = false) :=
  ⟨fun _ _ _ _ _ _ exec stored running stored' ready =>
      reconcile_ready_informs exec stored running stored' ready,
    fun _ _ _ _ run stored ready => run.ready_kit_stays stored ready⟩

/-! ## An update that failed -/

/-- The pass that writes the kit `Ready` and then fails to update the waiting
integration. -/
def readyPass : List Event :=
  [⟨.getKit builtKit.metadata.namespacedName, .ok (withResourceVersion builtKit 1)⟩,
    ⟨.getBuild builtKit.metadata.namespacedName, .ok (withResourceVersion builtBuild 2)⟩,
    ⟨.updateKitStatus (buildAction.readyTarget (withResourceVersion builtKit 1)
      (withResourceVersion builtBuild 2)), .ok 4⟩,
    ⟨.listIntegrations "default", .ok [withResourceVersion waitingIntegration 3]⟩,
    ⟨.updateIntegrationStatus { withResourceVersion waitingIntegration 3 with
      status.phase := integrationPhaseResolvingKit }, .error unavailable⟩]

/-- The store after it: the kit is `Ready`, the integration as it was. -/
def readyStore : Store :=
  builtStore.setKit (buildAction.readyTarget (withResourceVersion builtKit 1)
    (withResourceVersion builtBuild 2))

theorem readyPass_exec :
    Exec (reconcile builtKit.metadata.namespacedName) builtStore readyPass (.error unavailable)
      readyStore :=
  ⟨.call (.call (.call (.call (.call (.done _))))),
    .cons (.serve rfl) (.cons (.serve rfl) (.cons (.serve rfl) (.cons (.serve rfl)
      (.cons (.fail rfl nofun) (.nil _)))))⟩

/-- A run where the pass that writes the kit `Ready` lists an integration
waiting for the kit, which is never deleted, and fails to update it: the kit is
then handled by no action, and no pass ever set the integration to
`ResolvingKit`. -/
theorem ready_pass_leaves_integration_waiting :
    Run builtKit.metadata.namespacedName builtStore [.pass readyPass (.error unavailable)]
        readyStore ∧
      (⟨.updateKitStatus (buildAction.readyTarget (withResourceVersion builtKit 1)
        (withResourceVersion builtBuild 2)), .ok 4⟩ : Event) ∈ readyPass ∧
      (buildAction.readyTarget (withResourceVersion builtKit 1)
        (withResourceVersion builtBuild 2)).status.phase = integrationKitPhaseReady ∧
      (⟨.listIntegrations builtKit.metadata.namespace,
        .ok [withResourceVersion waitingIntegration 3]⟩ : Event) ∈ readyPass ∧
      (withResourceVersion waitingIntegration 3).status.kit = builtKit.metadata.name ∧
      readyStore.integrations.get waitingIntegration.metadata.namespacedName =
        some (withResourceVersion waitingIntegration 3) ∧
      (withResourceVersion waitingIntegration 3).status.phase ≠ integrationPhaseResolvingKit ∧
      (∀ kit, readyStore.kits.get builtKit.metadata.namespacedName = some kit →
        initializeAction.canHandle kit = false ∧ buildAction.canHandle kit = false) ∧
      ∀ integration version,
        (⟨.updateIntegrationStatus integration, .ok version⟩ : Event) ∉ readyPass := by
  refine ⟨.cons (.pass readyPass_exec) (.nil _), by simp [readyPass], rfl,
    by simp [readyPass, builtKit], rfl, rfl, by decide, fun kit stored => ?_, by simp [readyPass]⟩
  cases (show readyStore.kits.get builtKit.metadata.namespacedName = some
    (withResourceVersion (buildAction.readyTarget (withResourceVersion builtKit 1)
      (withResourceVersion builtBuild 2)) 4) from rfl).symm.trans stored
  exact ⟨rfl, rfl⟩

end CamelK
