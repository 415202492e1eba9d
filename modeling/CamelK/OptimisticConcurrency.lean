import CamelK.ErrorPaths

/-!
# Optimistic concurrency

Other clients write kits and integrations while a pass runs.  The store takes
an update only from a writer that holds the stored resource version, and every
write stamps the object it writes with a fresh revision, so an object that
still carries a version has not been written since that version was stamped.
This file shows that a pass updates a kit or an integration only from a
version it observed itself, by reading the object or by its own earlier write,
and derives that every update the store accepts from the pass replaces exactly
the object the pass observed: no write of another client in between is
overwritten.  In particular, a running kit is written `Ready` or `Error` only
if it stayed as the pass read it.
-/

namespace CamelK

open Resource Prog

/-! ## What a pass observes and what it writes -/

/-- The kit version an event shows the pass: a kit it read, or the version the
store gave its own kit update. -/
def Event.kitSeen : Event → Option (NamespacedName × Nat)
  | ⟨.getKit _, .ok kit⟩ => some (key kit, resourceVersion kit)
  | ⟨.updateKit kit, .ok version⟩ => some (key kit, version)
  | ⟨.updateKitStatus kit, .ok version⟩ => some (key kit, version)
  | _ => none

/-- The integration versions an event shows the pass: those it listed, or the
version the store gave its own update. -/
def Event.integrationsSeen : Event → List (NamespacedName × Nat)
  | ⟨.listIntegrations _, .ok items⟩ =>
      items.map fun integration => (key integration, resourceVersion integration)
  | ⟨.updateIntegrationStatus integration, .ok version⟩ => [(key integration, version)]
  | _ => []

/-- The kit, and the version it was updated from, of an accepted kit update. -/
def Event.kitWritten : Event → Option (NamespacedName × Nat)
  | ⟨.updateKit kit, .ok _⟩ => some (key kit, resourceVersion kit)
  | ⟨.updateKitStatus kit, .ok _⟩ => some (key kit, resourceVersion kit)
  | _ => none

/-- The integration, and the version it was updated from, of an accepted
integration update. -/
def Event.integrationWritten : Event → Option (NamespacedName × Nat)
  | ⟨.updateIntegrationStatus integration, .ok _⟩ =>
      some (key integration, resourceVersion integration)
  | _ => none

/-- The update of `event`, if it is one, was made from a version one of `seen`
showed. -/
def Event.SeenBy (event : Event) (seen : List Event) : Prop :=
  (∀ write, event.kitWritten = some write → ∃ observed ∈ seen, observed.kitSeen = some write) ∧
    ∀ write, event.integrationWritten = some write →
      ∃ observed ∈ seen, write ∈ observed.integrationsSeen

/-- Every update of `events` was made from a version shown by `seen` or by an
earlier event. -/
def WritesSeen (seen events : List Event) : Prop :=
  ∀ pre event post, events = pre ++ event :: post → event.SeenBy (seen ++ pre)

theorem Event.SeenBy.mono {event : Event} {seen seen' : List Event} (sub : seen ⊆ seen')
    (seenBy : event.SeenBy seen) : event.SeenBy seen' :=
  ⟨fun write written =>
      let ⟨observed, mem, shown⟩ := seenBy.1 write written
      ⟨observed, sub mem, shown⟩,
    fun write written =>
      let ⟨observed, mem, shown⟩ := seenBy.2 write written
      ⟨observed, sub mem, shown⟩⟩

theorem Event.seenBy_of_silent {event : Event} (noKit : event.kitWritten = none)
    (noIntegration : event.integrationWritten = none) (seen : List Event) : event.SeenBy seen :=
  ⟨fun _ written => by simp [noKit] at written, fun _ written => by simp [noIntegration] at written⟩

theorem Event.seenBy_kit {event : Event} {seen : List Event} {write : NamespacedName × Nat}
    (written : event.kitWritten = some write) (noIntegration : event.integrationWritten = none)
    (observed : ∃ observed ∈ seen, observed.kitSeen = some write) : event.SeenBy seen :=
  ⟨fun _ same => by rw [written] at same; cases same; exact observed,
    fun _ written => by simp [noIntegration] at written⟩

@[simp]
theorem writesSeen_nil (seen : List Event) : WritesSeen seen [] :=
  fun pre _ _ split => by simp at split

theorem writesSeen_cons {seen : List Event} {event : Event} {events : List Event} :
    WritesSeen seen (event :: events) ↔ event.SeenBy seen ∧ WritesSeen (seen ++ [event]) events := by
  constructor
  · intro written
    refine ⟨by simpa using written [] event events rfl, fun pre later post split => ?_⟩
    simpa using written (event :: pre) later post (by rw [split]; rfl)
  · rintro ⟨first, rest⟩ pre later post split
    cases pre with
    | nil =>
        cases split
        simpa using first
    | cons head pre =>
        simp only [List.cons_append, List.cons.injEq] at split
        obtain ⟨rfl, split⟩ := split
        simpa using rest pre later post split

theorem WritesSeen.of_forall {seen events : List Event}
    (each : ∀ event ∈ events, event.SeenBy seen) : WritesSeen seen events :=
  fun pre event post split =>
    (each event (by simp [split])).mono (List.subset_append_left _ _)

theorem writesSeen_of_silent {seen events : List Event}
    (silent : ∀ event ∈ events, event.kitWritten = none ∧ event.integrationWritten = none) :
    WritesSeen seen events :=
  .of_forall fun event mem => Event.seenBy_of_silent (silent event mem).1 (silent event mem).2 seen

/-! ## The updates of each action -/

theorem initializeAction.handle_writesSeen {kit : IntegrationKit} {events : List Event}
    {result : Except Error Unit} {seen : List Event}
    (path : Path (initializeAction.handle kit) events result)
    (read : ∃ observed ∈ seen, observed.kitSeen = some (key kit, resourceVersion kit)) :
    WritesSeen seen events := by
  rcases initializeAction.handle_path_cases path with ⟨_, rfl, -⟩ | ⟨_, rfl, -⟩ |
    ⟨_, _, _, rfl, -⟩ | ⟨_, _, _, _, rfl, -⟩ | ⟨env, spec, version, dgst, answer, rfl, -⟩
  iterate 3
    refine writesSeen_of_silent fun _ mem => ?_
    simp only [List.mem_cons, List.not_mem_nil, or_false] at mem
    rcases mem with rfl | rfl | rfl <;> exact ⟨rfl, rfl⟩
  all_goals
    obtain ⟨observed, mem, shown⟩ := read
    simp only [writesSeen_cons, writesSeen_nil, and_true]
    refine ⟨Event.seenBy_of_silent (by rfl) (by rfl) _, Event.seenBy_of_silent (by rfl) (by rfl) _,
      Event.seenBy_kit (by rfl) (by rfl) ⟨observed, by simp [mem], shown⟩, ?_⟩
  · exact Event.seenBy_of_silent (by rfl) (by rfl) _
  refine ⟨Event.seenBy_of_silent (by rfl) (by rfl) _, ?_⟩
  rcases answer with _ | written
  · exact Event.seenBy_of_silent (by rfl) (by rfl) _
  · exact Event.seenBy_kit (by rfl) (by rfl)
      ⟨⟨.updateKit { kit with spec := spec }, .ok version⟩, by simp, by simp [Event.kitSeen]⟩

/-- The updates of `informIntegrations` are made from the versions it listed. -/
theorem buildAction.informIntegrations_writesSeen {kit : IntegrationKit} {events : List Event}
    {result : Except Error Unit} {seen : List Event}
    (path : Path (buildAction.informIntegrations kit) events result) : WritesSeen seen events := by
  obtain ⟨listed, rest, rfl, (⟨_, -, rfl, -⟩ | ⟨items, rfl, informing⟩)⟩ :=
    buildAction.informIntegrations_path_cases path
  · exact writesSeen_cons.mpr ⟨Event.seenBy_of_silent (by rfl) (by rfl) _, writesSeen_nil _⟩
  rw [writesSeen_cons]
  refine ⟨Event.seenBy_of_silent (by rfl) (by rfl) _, .of_forall fun event mem => ?_⟩
  obtain ⟨integration, listedMem, called⟩ : ∃ integration ∈ items, event.1 =
      .updateIntegrationStatus { integration with status.phase := integrationPhaseResolvingKit } := by
    have called := List.mem_map_of_mem Sigma.fst mem
    rcases buildAction.informEach_path_cases informing with ⟨calls, -⟩ | ⟨_, _, -, calls, -⟩ <;>
      rw [calls] at called <;> obtain ⟨integration, waiting, same⟩ := List.mem_map.mp called
    · exact ⟨integration, List.mem_of_mem_filter waiting, same.symm⟩
    · exact ⟨integration, List.mem_of_mem_filter (List.mem_of_mem_take waiting), same.symm⟩
  obtain ⟨call, answer⟩ := event
  cases called
  rcases answer with _ | written
  · exact Event.seenBy_of_silent (by rfl) (by rfl) _
  · refine ⟨fun _ same => (by cases same), fun write same => ?_⟩
    cases same
    exact ⟨⟨.listIntegrations kit.metadata.namespace, .ok items⟩, by simp,
      List.mem_map.mpr ⟨integration, listedMem, rfl⟩⟩

theorem buildAction.handleBuildSubmitted_writesSeen {kit : IntegrationKit} {events : List Event}
    {result : Except Error Unit} {seen : List Event}
    (path : Path (buildAction.handleBuildSubmitted kit) events result)
    (read : ∃ observed ∈ seen, observed.kitSeen = some (key kit, resourceVersion kit)) :
    WritesSeen seen events := by
  obtain ⟨got, rest, rfl, cases⟩ := buildAction.handleBuildSubmitted_path_cases path
  rw [writesSeen_cons]
  refine ⟨Event.seenBy_of_silent (by rfl) (by rfl) _, ?_⟩
  rcases cases with ⟨_, -, -, rfl, -⟩ | ⟨-, _, recreating, -⟩ | ⟨_, -, -, marking⟩
  · exact writesSeen_nil _
  · refine writesSeen_of_silent fun _ mem => ?_
    rcases buildAction.recreateBuild_path_cases recreating with ⟨_, rfl, -⟩ | ⟨_, _, -, rfl, -⟩ |
      ⟨_, _, _, _, _, -, -, rfl, -⟩ | ⟨_, _, _, _, _, -, -, rfl, -⟩ | ⟨_, _, _, _, _, -, -, rfl, -⟩ <;>
      simp only [List.mem_cons, List.not_mem_nil, or_false] at mem <;>
      rcases mem with rfl | rfl | rfl <;> exact ⟨rfl, rfl⟩
  · rcases buildAction.markBuildRunning_path_cases marking with ⟨-, answer, rfl, -⟩ | ⟨-, rfl, -⟩
    · obtain ⟨observed, mem, shown⟩ := read
      simp only [writesSeen_cons, writesSeen_nil, and_true]
      rcases answer with _ | written
      · exact Event.seenBy_of_silent (by rfl) (by rfl) _
      · exact Event.seenBy_kit (by rfl) (by rfl) ⟨observed, by simp [mem], shown⟩
    · exact writesSeen_nil _

theorem buildAction.handleBuildRunning_writesSeen {kit : IntegrationKit} {events : List Event}
    {result : Except Error Unit} {seen : List Event}
    (path : Path (buildAction.handleBuildRunning kit) events result)
    (read : ∃ observed ∈ seen, observed.kitSeen = some (key kit, resourceVersion kit)) :
    WritesSeen seen events := by
  obtain ⟨observed, mem, shown⟩ := read
  obtain ⟨got, rest, rfl, cases⟩ := buildAction.handleBuildRunning_path_cases path
  rw [writesSeen_cons]
  refine ⟨Event.seenBy_of_silent (by rfl) (by rfl) _, ?_⟩
  rcases cases with ⟨_, -, rfl, -⟩ | ⟨build, -, -, succeeding⟩ | ⟨build, -, -, failing⟩ |
    ⟨_, -, -, -, -, rfl, -⟩
  · exact writesSeen_nil _
  · rcases buildAction.buildSucceeded_path_cases succeeding with ⟨-, rfl, -⟩ | ⟨-, _, rfl, -⟩ |
      ⟨-, version, inform, rfl, informing⟩
    · exact writesSeen_nil _
    · exact writesSeen_cons.mpr ⟨Event.seenBy_of_silent (by rfl) (by rfl) _, writesSeen_nil _⟩
    · rw [writesSeen_cons]
      exact ⟨Event.seenBy_kit (by rfl) (by rfl) ⟨observed, by simp [mem], by simpa using shown⟩,
        buildAction.informIntegrations_writesSeen informing⟩
  · rcases buildAction.buildFailed_path_cases failing with ⟨-, rfl, -⟩ | ⟨-, answer, rfl, -⟩
    · exact writesSeen_nil _
    · simp only [writesSeen_cons, writesSeen_nil, and_true]
      rcases answer with _ | written
      · exact Event.seenBy_of_silent (by rfl) (by rfl) _
      · exact Event.seenBy_kit (by rfl) (by rfl) ⟨observed, by simp [mem], by simpa using shown⟩
  · exact writesSeen_nil _

/-- A pass updates a kit or an integration only from a version it observed
before: a kit it read or its own earlier update, an integration it listed. -/
theorem reconcile_writesSeen {name : NamespacedName} {events : List Event}
    {result : Except Error Unit} (path : Path (reconcile name) events result) :
    WritesSeen [] events := by
  obtain ⟨got, rest, rfl, cases⟩ := reconcile_path_cases path
  rw [writesSeen_cons]
  refine ⟨Event.seenBy_of_silent (by rfl) (by rfl) _, ?_⟩
  rcases cases with ⟨_, -, rfl, -⟩ | ⟨kit, rfl, -, handling⟩ | ⟨kit, rfl, -, handling⟩ |
    ⟨_, -, -, -, -, rfl, -⟩
  · exact writesSeen_nil _
  · exact initializeAction.handle_writesSeen handling ⟨⟨.getKit name, .ok kit⟩, by simp, rfl⟩
  · rcases buildAction.handle_path_cases handling with ⟨-, submitting⟩ | ⟨-, running⟩ |
      ⟨-, -, rfl, -⟩
    · exact buildAction.handleBuildSubmitted_writesSeen submitting
        ⟨⟨.getKit name, .ok kit⟩, by simp, rfl⟩
    · exact buildAction.handleBuildRunning_writesSeen running
        ⟨⟨.getKit name, .ok kit⟩, by simp, rfl⟩
    · exact writesSeen_nil _
  · exact writesSeen_nil _

/-! ## Every write stamps a fresh revision -/

section Stamps

variable {α : Type} [Resource α]

/-- How one step of the store changes one of its tables: the revision does not
go back, and an object under a name stays, or the revision advances and the
name then holds no object or one stamped with the new revision. -/
def Stamps (table : Store → Table α) (store next : Store) : Prop :=
  store.revision ≤ next.revision ∧ ∀ name, (table next).get name = (table store).get name ∨
    store.revision < next.revision ∧
      ∀ object, (table next).get name = some object → resourceVersion object = next.revision

theorem Stamps.refl (table : Store → Table α) (store : Store) : Stamps table store store :=
  ⟨le_rfl, fun _ => .inl rfl⟩

theorem Stamps.of_eq {table : Store → Table α} {store next : Store}
    (same : table next = table store) (grew : store.revision ≤ next.revision) :
    Stamps table store next :=
  ⟨grew, fun _ => .inl (by rw [same])⟩

theorem Stamps.of_stamp {table : Store → Table α} {store next : Store}
    (grew : next.revision = store.revision + 1)
    (stamped : ∀ name, (table next).get name = (table store).get name ∨
      ∀ object, (table next).get name = some object → resourceVersion object = next.revision) :
    Stamps table store next :=
  ⟨by omega, fun name => (stamped name).imp_right fun stamped => ⟨by omega, stamped⟩⟩

theorem Table.get_set_stamped (table : Table α) (object : α) (version : Nat)
    (name : NamespacedName) :
    (table.set (withResourceVersion object version)).get name = table.get name ∨
      ∀ held, (table.set (withResourceVersion object version)).get name = some held →
        resourceVersion held = version := by
  rw [Table.get_set_eq]
  split
  · refine .inr fun held found => ?_
    obtain ⟨_, -, rfl⟩ := Option.map_eq_some'.mp found
    exact resourceVersion_withResourceVersion _ _
  · exact .inl rfl

theorem Table.get_insert_stamped (table : Table α) (object : α) (version : Nat)
    (name : NamespacedName) :
    (table.insert (withResourceVersion object version)).get name = table.get name ∨
      ∀ held, (table.insert (withResourceVersion object version)).get name = some held →
        resourceVersion held = version := by
  by_cases absent : table.get (key (withResourceVersion object version)) = none
  · rw [Table.get_insert _ _ absent]
    split
    · exact .inr fun held found => by
        cases found
        exact resourceVersion_withResourceVersion _ _
    · exact .inl rfl
  · refine .inl ?_
    unfold Table.insert
    rw [dif_neg fun held => absent (Option.isNone_iff_eq_none.mp held)]

theorem Table.get_erase_stamped (table : Table α) (erased name : NamespacedName) :
    (table.erase erased).get name = table.get name ∨ (table.erase erased).get name = none := by
  rw [Table.get_erase]
  split
  · exact .inr rfl
  · exact .inl rfl

end Stamps

/-- One step of the store, as seen in the kits and in the integrations. -/
def Store.Advances (store next : Store) : Prop :=
  Stamps Store.kits store next ∧ Stamps Store.integrations store next

namespace Store

theorem setKit_advances (store : Store) (kit : IntegrationKit) : store.Advances (store.setKit kit) :=
  ⟨.of_stamp rfl fun name => Table.get_set_stamped _ _ _ name, .of_eq rfl (Nat.le_succ _)⟩

theorem insertKit_advances (store : Store) (kit : IntegrationKit) :
    store.Advances (store.insertKit kit) :=
  ⟨.of_stamp rfl fun name => Table.get_insert_stamped _ _ _ name, .of_eq rfl (Nat.le_succ _)⟩

theorem eraseKit_advances (store : Store) (name : NamespacedName) :
    store.Advances (store.eraseKit name) :=
  ⟨.of_stamp rfl fun other => (Table.get_erase_stamped _ _ other).imp_right
      fun erased _ found => (by cases erased.symm.trans found),
    .of_eq rfl (Nat.le_succ _)⟩

theorem insertBuild_advances (store : Store) (build : Build) :
    store.Advances (store.insertBuild build) :=
  ⟨.of_eq rfl (Nat.le_succ _), .of_eq rfl (Nat.le_succ _)⟩

theorem eraseBuild_advances (store : Store) (name : NamespacedName) :
    store.Advances (store.eraseBuild name) :=
  ⟨.of_eq rfl (Nat.le_succ _), .of_eq rfl (Nat.le_succ _)⟩

theorem setIntegration_advances (store : Store) (integration : Integration) :
    store.Advances (store.setIntegration integration) :=
  ⟨.of_eq rfl (Nat.le_succ _), .of_stamp rfl fun name => Table.get_set_stamped _ _ _ name⟩

theorem insertIntegration_advances (store : Store) (integration : Integration) :
    store.Advances (store.insertIntegration integration) :=
  ⟨.of_eq rfl (Nat.le_succ _), .of_stamp rfl fun name => Table.get_insert_stamped _ _ _ name⟩

theorem eraseIntegration_advances (store : Store) (name : NamespacedName) :
    store.Advances (store.eraseIntegration name) :=
  ⟨.of_eq rfl (Nat.le_succ _), .of_stamp rfl fun other =>
    (Table.get_erase_stamped _ _ other).imp_right fun erased _ found => by
      cases erased.symm.trans found⟩

end Store

theorem Responds.advances {store next : Store} {call : Call} {answer : Except Error call.Out}
    (responds : Responds store call answer next) : store.Advances next := by
  rcases responds.store_cases with ⟨rfl, -⟩ | ⟨_, _, -, written⟩ | ⟨_, _, -, written⟩ |
    ⟨_, -, written⟩ | ⟨_, _, -, written⟩ | ⟨_, _, -, written⟩
  · exact ⟨.refl _ _, .refl _ _⟩
  · obtain ⟨_, -, -, rfl⟩ := Store.updateKit_ok written
    exact Store.setKit_advances _ _
  · obtain ⟨_, -, -, rfl⟩ := Store.updateKitStatus_ok written
    exact Store.setKit_advances _ _
  · rw [(Store.deleteBuild_ok written).2]
    exact Store.eraseBuild_advances _ _
  · rw [(Store.createBuild_ok written).2.2]
    exact Store.insertBuild_advances _ _
  · obtain ⟨_, -, -, rfl⟩ := Store.updateIntegrationStatus_ok written
    exact Store.setIntegration_advances _ _

theorem ForeignWrite.advances {store next : Store} (foreign : ForeignWrite store next) :
    store.Advances next := by
  cases foreign with
  | updateKit written =>
      obtain ⟨_, -, -, rfl⟩ := Store.updateKit_ok written
      exact Store.setKit_advances _ _
  | updateKitStatus written =>
      obtain ⟨_, -, -, rfl⟩ := Store.updateKitStatus_ok written
      exact Store.setKit_advances _ _
  | createKit written =>
      unfold Store.createKit at written
      split at written <;> cases written
      exact Store.insertKit_advances _ _
  | deleteKit written =>
      unfold Store.deleteKit at written
      split at written <;> cases written
      exact Store.eraseKit_advances _ _
  | updateIntegrationStatus written =>
      obtain ⟨_, -, -, rfl⟩ := Store.updateIntegrationStatus_ok written
      exact Store.setIntegration_advances _ _
  | createIntegration written =>
      unfold Store.createIntegration at written
      split at written <;> cases written
      exact Store.insertIntegration_advances _ _
  | deleteIntegration written =>
      unfold Store.deleteIntegration at written
      split at written <;> cases written
      exact Store.eraseIntegration_advances _ _

/-! ## The stores along an interleaved run -/

/-- The entries of a run lead from `store` to `final`, each from the store
before it to the store after it by a `step`. -/
inductive Linked (step : Store → Store → Prop) : Store → List Entry → Store → Prop
  | nil (store : Store) : Linked step store [] store
  | cons {entry : Entry} {entries : List Entry} {final : Store} :
      step entry.before entry.after → Linked step entry.after entries final →
        Linked step entry.before (entry :: entries) final

theorem Linked.mono {step step' : Store → Store → Prop} (weaker : ∀ store next, step store next → step' store next)
    {store final : Store} {entries : List Entry} (linked : Linked step store entries final) :
    Linked step' store entries final := by
  induction linked with
  | nil => exact .nil _
  | cons stepped _ ih => exact .cons (weaker _ _ stepped) ih

theorem Linked.append {step : Store → Store → Prop} {store final : Store}
    {first second : List Entry} (linked : Linked step store (first ++ second) final) :
    ∃ middle, Linked step store first middle ∧ Linked step middle second final := by
  induction first generalizing store with
  | nil => exact ⟨store, .nil _, linked⟩
  | cons entry first ih =>
      cases linked with
      | cons stepped rest =>
          obtain ⟨middle, before, after⟩ := ih rest
          exact ⟨middle, .cons stepped before, after⟩

theorem Prog.Interleaved.linked {program : Prog α} {store final : Store} {entries : List Entry}
    {value : α} (run : Interleaved ForeignWrite program store entries value final) :
    Linked Store.Advances store entries final := by
  induction run with
  | done => exact .nil _
  | call responds _ ih => exact @Linked.cons _ (.pass _ _ _) _ _ responds.advances ih
  | foreign foreign _ ih => exact @Linked.cons _ (.foreign _ _) _ _ foreign.advances ih

theorem Prog.Interleaved.responds {program : Prog α} {store final : Store} {entries : List Entry}
    {value : α} (run : Interleaved ForeignWrite program store entries value final)
    {before after : Store} {event : Event} (mem : Entry.pass before event after ∈ entries) :
    Responds before event.1 event.2 after := by
  induction run with
  | done => cases mem
  | call responds _ ih =>
      rcases List.mem_cons.mp mem with same | mem
      · cases same
        exact responds
      · exact ih mem
  | foreign _ _ ih =>
      rcases List.mem_cons.mp mem with same | mem
      · cases same
      · exact ih mem

@[simp]
theorem events_append (first second : List Entry) :
    events (first ++ second) = events first ++ events second :=
  List.filterMap_append _ _ _

@[simp]
theorem events_pass (before after : Store) (event : Event) (entries : List Entry) :
    events (.pass before event after :: entries) = event :: events entries :=
  rfl

/-- An event of the pass comes from one of the entries. -/
theorem events_mem {entries : List Entry} {event : Event} (mem : event ∈ events entries) :
    ∃ first before after rest, entries = first ++ .pass before event after :: rest := by
  obtain ⟨entry, entryMem, found⟩ := List.mem_filterMap.mp mem
  cases entry with
  | foreign => cases found
  | pass before event' after =>
      cases found
      obtain ⟨first, rest, rfl⟩ := List.append_of_mem entryMem
      exact ⟨first, before, after, rest, rfl⟩

/-! ## An object that keeps its version was not written -/

section Freshness

variable {α : Type} [Resource α] {table : Store → Table α}

/-- Once an object under a name is newer than `version`, it stays so. -/
theorem Linked.newer {store final : Store} {entries : List Entry}
    (linked : Linked (Stamps table) store entries final) {name : NamespacedName} {version : Nat}
    (bound : version ≤ store.revision)
    (newer : ∀ held, (table store).get name = some held → version < resourceVersion held) :
    ∀ held, (table final).get name = some held → version < resourceVersion held := by
  induction linked with
  | nil => exact newer
  | cons stepped _ ih =>
      refine ih (bound.trans stepped.1) fun held found => ?_
      rcases stepped.2 name with kept | ⟨grew, stamped⟩
      · exact newer held (kept ▸ found)
      · rw [stamped held found]
        omega

/-- An object found again with its version at the end of a run of stamping
steps was there all along: every store of the run holds it. -/
theorem Linked.unchanged {store final : Store} {entries : List Entry}
    (linked : Linked (Stamps table) store entries final) {name : NamespacedName} {object : α}
    (found : (table store).get name = some object) (bound : resourceVersion object ≤ store.revision)
    {object' : α} (found' : (table final).get name = some object')
    (same : resourceVersion object' = resourceVersion object) :
    (table final).get name = some object ∧
      ∀ entry ∈ entries, (table entry.after).get name = some object := by
  induction linked with
  | nil => exact ⟨found, fun _ mem => absurd mem (List.not_mem_nil _)⟩
  | cons stepped rest ih =>
      rcases stepped.2 name with kept | ⟨grew, stamped⟩
      · have found₁ := kept ▸ found
        obtain ⟨last, between⟩ := ih found₁ (bound.trans stepped.1) found'
        exact ⟨last, List.forall_mem_cons.mpr ⟨found₁, between⟩⟩
      · have later := rest.newer (bound.trans stepped.1)
          (fun held found => by rw [stamped held found]; omega) object' found'
        omega

end Freshness

/-! ## What the pass observed and what it replaced -/

theorem Responds.updateKit_ok {store next : Store} {kit : IntegrationKit} {version : Nat}
    (responds : Responds store (.updateKit kit) (.ok version) next) :
    store.updateKit kit = .ok (version, next) := by
  rcases responds.store_cases with ⟨-, ⟨⟩⟩ | ⟨_, _, same, written⟩ | ⟨_, _, ⟨⟩, -⟩ |
    ⟨_, ⟨⟩, -⟩ | ⟨_, _, ⟨⟩, -⟩ | ⟨_, _, ⟨⟩, -⟩
  cases same
  exact written

theorem Responds.updateKitStatus_ok {store next : Store} {kit : IntegrationKit} {version : Nat}
    (responds : Responds store (.updateKitStatus kit) (.ok version) next) :
    store.updateKitStatus kit = .ok (version, next) := by
  rcases responds.store_cases with ⟨-, ⟨⟩⟩ | ⟨_, _, ⟨⟩, -⟩ | ⟨_, _, same, written⟩ |
    ⟨_, ⟨⟩, -⟩ | ⟨_, _, ⟨⟩, -⟩ | ⟨_, _, ⟨⟩, -⟩
  cases same
  exact written

theorem Responds.updateIntegrationStatus_ok {store next : Store} {integration : Integration}
    {version : Nat} (responds : Responds store (.updateIntegrationStatus integration) (.ok version) next) :
    store.updateIntegrationStatus integration = .ok (version, next) := by
  rcases responds.store_cases with ⟨-, ⟨⟩⟩ | ⟨_, _, ⟨⟩, -⟩ | ⟨_, _, ⟨⟩, -⟩ |
    ⟨_, ⟨⟩, -⟩ | ⟨_, _, ⟨⟩, -⟩ | ⟨_, _, same, written⟩
  cases same
  exact written

/-- A kit version the pass observed is the version of the kit the store holds
right after the observation. -/
theorem Responds.kitSeen {store next : Store} {event : Event}
    (responds : Responds store event.1 event.2 next) {name : NamespacedName} {version : Nat}
    (shown : event.kitSeen = some (name, version)) :
    ∃ kit, next.kits.get name = some kit ∧ resourceVersion kit = version ∧
      version ≤ next.revision := by
  obtain ⟨call, answer⟩ := event
  cases call <;> cases answer <;>
    simp only [Event.kitSeen, reduceCtorEq, Option.some.injEq, Prod.mk.injEq] at shown
  case mk.getKit.ok read kit =>
    obtain ⟨rfl, rfl⟩ := shown
    obtain ⟨rfl, stored, -⟩ := responds.getKit_answer
    have found := stored kit rfl
    rw [Table.key_of_get found]
    exact ⟨kit, found, rfl, next.versionsBelow.1 kit (Table.mem_of_get found)⟩
  case mk.updateKit.ok kit version =>
    obtain ⟨rfl, rfl⟩ := shown
    obtain ⟨held, found, rfl, rfl⟩ := Store.updateKit_ok responds.updateKit_ok
    exact ⟨_, Table.get_set_self found, by simp, le_rfl⟩
  case mk.updateKitStatus.ok kit version =>
    obtain ⟨rfl, rfl⟩ := shown
    obtain ⟨held, found, rfl, rfl⟩ := Store.updateKitStatus_ok responds.updateKitStatus_ok
    have named := Table.key_of_get found
    rw [← named] at found ⊢
    exact ⟨_, Table.get_set_self found, by simp, le_rfl⟩

/-- An integration version the pass observed is the version of the integration
the store holds right after the observation. -/
theorem Responds.integrationSeen {store next : Store} {event : Event}
    (responds : Responds store event.1 event.2 next) {name : NamespacedName} {version : Nat}
    (shown : (name, version) ∈ event.integrationsSeen) :
    ∃ integration, next.integrations.get name = some integration ∧
      resourceVersion integration = version ∧ version ≤ next.revision := by
  obtain ⟨call, answer⟩ := event
  cases call <;> cases answer <;> simp only [Event.integrationsSeen, List.not_mem_nil] at shown
  case mk.listIntegrations.ok ns items =>
    obtain ⟨rfl, listed⟩ := responds.listIntegrations_answer
    obtain ⟨integration, mem, same⟩ := List.mem_map.mp shown
    cases same
    have held : integration ∈ next.integrations.items :=
      List.mem_of_mem_filter (listed items rfl ▸ mem)
    exact ⟨integration, Table.get_of_mem held, rfl, next.versionsBelow.2.2 _ held⟩
  case mk.updateIntegrationStatus.ok integration version =>
    simp only [List.mem_singleton, Prod.mk.injEq] at shown
    obtain ⟨rfl, rfl⟩ := shown
    obtain ⟨held, found, rfl, rfl⟩ :=
      Store.updateIntegrationStatus_ok responds.updateIntegrationStatus_ok
    have named := Table.key_of_get found
    rw [← named] at found ⊢
    exact ⟨_, Table.get_set_self found, by simp, le_rfl⟩

/-- An accepted kit update replaced a kit of the version it was made from. -/
theorem Responds.kitWritten {store next : Store} {event : Event}
    (responds : Responds store event.1 event.2 next) {name : NamespacedName} {version : Nat}
    (written : event.kitWritten = some (name, version)) :
    ∃ kit, store.kits.get name = some kit ∧ resourceVersion kit = version := by
  obtain ⟨call, answer⟩ := event
  cases call <;> cases answer <;>
    simp only [Event.kitWritten, reduceCtorEq, Option.some.injEq, Prod.mk.injEq] at written
  case mk.updateKit.ok kit _ =>
    obtain ⟨rfl, rfl⟩ := written
    obtain ⟨held, current, -⟩ := Store.map_eq_ok responds.updateKit_ok
    exact ⟨held, Table.get_of_current current⟩
  case mk.updateKitStatus.ok kit _ =>
    obtain ⟨rfl, rfl⟩ := written
    obtain ⟨held, current, -⟩ := Store.map_eq_ok responds.updateKitStatus_ok
    exact ⟨held, Table.get_of_current current⟩

/-- An accepted integration update replaced an integration of the version it
was made from. -/
theorem Responds.integrationWritten {store next : Store} {event : Event}
    (responds : Responds store event.1 event.2 next) {name : NamespacedName} {version : Nat}
    (written : event.integrationWritten = some (name, version)) :
    ∃ integration, store.integrations.get name = some integration ∧
      resourceVersion integration = version := by
  obtain ⟨call, answer⟩ := event
  cases call <;> cases answer <;>
    simp only [Event.integrationWritten, reduceCtorEq, Option.some.injEq, Prod.mk.injEq] at written
  case mk.updateIntegrationStatus.ok integration _ =>
    obtain ⟨rfl, rfl⟩ := written
    obtain ⟨held, current, -⟩ := Store.map_eq_ok responds.updateIntegrationStatus_ok
    exact ⟨held, Table.get_of_current current⟩

section Kept

variable {β : Type} {program : Prog β} {store final : Store} {entries : List Entry} {value : β}
  {first between rest : List Entry} {before' after' before after : Store} {observed event : Event}

/-- Between an entry that left `object` under `name` and a later entry that
found an object of the same version there, every store holds `object`. -/
theorem Prog.Interleaved.kept {α : Type} [Resource α] {table : Store → Table α}
    (project : ∀ store next, store.Advances next → Stamps table store next)
    (run : Interleaved ForeignWrite program store entries value final)
    (split : entries = first ++ .pass before' observed after' ::
      (between ++ .pass before event after :: rest))
    {name : NamespacedName} {object object' : α} (found : (table after').get name = some object)
    (bound : resourceVersion object ≤ after'.revision)
    (found' : (table before).get name = some object')
    (same : resourceVersion object' = resourceVersion object) :
    (table before).get name = some object ∧
      ∀ entry ∈ between, (table entry.after).get name = some object := by
  have linked := run.linked.mono project
  rw [split] at linked
  obtain ⟨_, -, linked⟩ := linked.append
  cases linked with
  | cons _ linked =>
      obtain ⟨_, linked, last⟩ := linked.append
      cases last with
      | cons _ _ => exact linked.unchanged found bound found' same

/-- An accepted kit update of the pass, made from the version an earlier call
observed, replaced the kit that call left, and no write came in between. -/
theorem Prog.Interleaved.kit_kept (run : Interleaved ForeignWrite program store entries value final)
    (split : entries = first ++ .pass before' observed after' ::
      (between ++ .pass before event after :: rest))
    {name : NamespacedName} {version : Nat} (shown : observed.kitSeen = some (name, version))
    (written : event.kitWritten = some (name, version)) :
    ∃ kit, after'.kits.get name = some kit ∧ before.kits.get name = some kit ∧
      ∀ entry ∈ between, entry.after.kits.get name = some kit := by
  obtain ⟨kit, seenAt, seenVersion, bound⟩ :=
    (run.responds (show Entry.pass before' observed after' ∈ entries by simp [split])).kitSeen shown
  obtain ⟨_, writtenAt, writtenVersion⟩ :=
    (run.responds (show Entry.pass before event after ∈ entries by simp [split])).kitWritten written
  exact ⟨kit, seenAt, run.kept (fun _ _ advances => advances.1) split seenAt
    (seenVersion ▸ bound) writtenAt (writtenVersion.trans seenVersion.symm)⟩

/-- The same for an accepted integration update. -/
theorem Prog.Interleaved.integration_kept
    (run : Interleaved ForeignWrite program store entries value final)
    (split : entries = first ++ .pass before' observed after' ::
      (between ++ .pass before event after :: rest))
    {name : NamespacedName} {version : Nat} (shown : (name, version) ∈ observed.integrationsSeen)
    (written : event.integrationWritten = some (name, version)) :
    ∃ integration, after'.integrations.get name = some integration ∧
      before.integrations.get name = some integration ∧
      ∀ entry ∈ between, entry.after.integrations.get name = some integration := by
  obtain ⟨integration, seenAt, seenVersion, bound⟩ :=
    (run.responds (show Entry.pass before' observed after' ∈ entries by simp [split])).integrationSeen
      shown
  obtain ⟨_, writtenAt, writtenVersion⟩ :=
    (run.responds (show Entry.pass before event after ∈ entries by simp [split])).integrationWritten
      written
  exact ⟨integration, seenAt, run.kept (fun _ _ advances => advances.2) split seenAt
    (seenVersion ▸ bound) writtenAt (writtenVersion.trans seenVersion.symm)⟩

end Kept

/-! ## No write of another client is overwritten -/

/-- An update the store accepted from a pass was made from a version an
earlier call of the pass observed. -/
theorem Prog.Interleaved.observed_before {name : NamespacedName} {store final : Store}
    {entries : List Entry} {result : Except Error Unit}
    (run : Interleaved ForeignWrite (reconcile name) store entries result final)
    {first rest : List Entry} {before after : Store} {event : Event}
    (split : entries = first ++ .pass before event after :: rest) :
    event.SeenBy (events first) := by
  have seen := reconcile_writesSeen run.path
  rw [split, events_append, events_pass] at seen
  simpa using seen (events first) event (events rest) rfl

/-- Under optimistic concurrency, with other clients writing kits and
integrations at any point of a pass: every kit or integration update the store
accepts from the pass was made from a version an earlier call of the pass
observed (a read, a listing or its own earlier update), and it replaced exactly
the object that call left in the store, which every store in between held, so
no write of another client is overwritten.  In particular, a running kit is
written `Ready` or `Error` only if every store between the pass's read and the
write held the kit exactly as read: a kit moved away from `BuildRunning` in the
meantime gets neither. -/
theorem pass_updates_what_it_observed (name : NamespacedName) :
    (∀ store entries result final,
      Interleaved ForeignWrite (reconcile name) store entries result final →
      ∀ first before event after rest target version,
        entries = first ++ .pass before event after :: rest →
        event.kitWritten = some (target, version) →
        ∃ earlier before' observed after' between,
          first = earlier ++ .pass before' observed after' :: between ∧
          observed.kitSeen = some (target, version) ∧
          ∃ kit, after'.kits.get target = some kit ∧ before.kits.get target = some kit ∧
            ∀ entry ∈ between, entry.after.kits.get target = some kit) ∧
      (∀ store entries result final,
        Interleaved ForeignWrite (reconcile name) store entries result final →
        ∀ first before event after rest target version,
          entries = first ++ .pass before event after :: rest →
          event.integrationWritten = some (target, version) →
          ∃ earlier before' observed after' between,
            first = earlier ++ .pass before' observed after' :: between ∧
            (target, version) ∈ observed.integrationsSeen ∧
            ∃ integration, after'.integrations.get target = some integration ∧
              before.integrations.get target = some integration ∧
              ∀ entry ∈ between, entry.after.integrations.get target = some integration) ∧
      (∀ store entries result final,
        Interleaved ForeignWrite (reconcile name) store entries result final →
        ∀ first before' kit after' between before target version after rest,
          (∀ entry ∈ first, entry.event? = none) →
          entries = first ++ .pass before' ⟨.getKit name, .ok kit⟩ after' ::
            (between ++ .pass before ⟨.updateKitStatus target, .ok version⟩ after :: rest) →
          kit.status.phase = integrationKitPhaseBuildRunning →
          (target.status.phase = integrationKitPhaseReady ∨
            target.status.phase = integrationKitPhaseError) →
          ∀ entry ∈ between, entry.after.kits.get name = some kit) := by
  refine ⟨?_, ?_, ?_⟩
  · intro store entries result final run first before event after rest target version split written
    obtain ⟨observed, mem, shown⟩ := (run.observed_before split).1 _ written
    obtain ⟨earlier, before', after', between, rfl⟩ := events_mem mem
    exact ⟨earlier, before', observed, after', between, rfl, shown,
      run.kit_kept (show entries = earlier ++ .pass before' observed after' ::
        (between ++ .pass before event after :: rest) by simp [split]) shown written⟩
  · intro store entries result final run first before event after rest target version split written
    obtain ⟨observed, mem, shown⟩ := (run.observed_before split).2 _ written
    obtain ⟨earlier, before', after', between, rfl⟩ := events_mem mem
    exact ⟨earlier, before', observed, after', between, rfl, shown,
      run.integration_kept (show entries = earlier ++ .pass before' observed after' ::
        (between ++ .pass before event after :: rest) by simp [split]) shown written⟩
  · intro store entries result final run first before' kit after' between before target version
      after rest silent split running finished
    have quiet : events first = [] := List.filterMap_eq_nil_iff.mpr silent
    have path := run.path
    rw [split] at path
    simp only [events_append, events_pass, quiet, List.nil_append] at path
    obtain ⟨_, _, same, cases⟩ := reconcile_statusWrite_cases path
      (show (⟨.updateKitStatus target, .ok version⟩ : Event) ∈ _ by simp)
    simp only [List.cons.injEq, Sigma.mk.inj_iff, heq_eq_eq, Except.ok.injEq, true_and] at same
    obtain ⟨rfl, -⟩ := same
    have keyed : target.metadata = kit.metadata := by
      rcases cases with ⟨unset, -⟩ | ⟨submitted, -⟩ | ⟨-, _, _, -, -, rfl⟩ | ⟨-, _, -, -, rfl⟩
      · exact absurd (running.symm.trans unset) (by decide)
      · exact absurd (running.symm.trans submitted) (by decide)
      · rfl
      · rfl
    obtain ⟨same, stored, -⟩ :=
      (run.responds (show Entry.pass before' ⟨.getKit name, .ok kit⟩ after' ∈ entries by
        simp [split])).getKit_answer
    have named : key kit = name := Table.key_of_get (stored kit rfl)
    obtain ⟨kit', read, -, between⟩ := run.kit_kept split
      (rfl : Event.kitSeen ⟨.getKit name, .ok kit⟩ = _)
      (show Event.kitWritten ⟨.updateKitStatus target, .ok version⟩ =
          some (key kit, resourceVersion kit) from
        congrArg (fun meta : ObjectMeta => some (meta.namespacedName, meta.resourceVersion)) keyed)
    rw [same, named, stored kit rfl] at read
    cases read
    rwa [named] at between

end CamelK
