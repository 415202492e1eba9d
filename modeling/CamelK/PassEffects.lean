import CamelK.Reconcile

/-!
# What the calls of a pass do to the store

A call changes the store only when it is a write the store accepts, and then
only the object under the name it writes.  This file says so once per table:
the kit, the build and the integration held under a name after a sequence of
answered calls are the ones held before, with the successful writes of the
sequence replayed over them.  Every later statement about the store after a
pass goes through these replay lemmas, never through the store operations.
-/

namespace CamelK

open Resource Prog

@[simp]
theorem IntegrationKit.key_eq (kit : IntegrationKit) : key kit = kit.metadata.namespacedName :=
  rfl

@[simp]
theorem Build.key_eq (build : Build) : key build = build.metadata.namespacedName :=
  rfl

@[simp]
theorem Integration.key_eq (integration : Integration) :
    key integration = integration.metadata.namespacedName :=
  rfl

@[simp]
theorem IntegrationKit.resourceVersion_eq (kit : IntegrationKit) :
    resourceVersion kit = kit.metadata.resourceVersion :=
  rfl

@[simp]
theorem Integration.resourceVersion_eq (integration : Integration) :
    resourceVersion integration = integration.metadata.resourceVersion :=
  rfl

@[simp]
theorem ObjectMeta.namespacedName_withResourceVersion (meta : ObjectMeta) (version : Nat) :
    { meta with resourceVersion := version }.namespacedName = meta.namespacedName :=
  rfl

@[simp]
theorem IntegrationKit.withResourceVersion_eq (kit : IntegrationKit) (version : Nat) :
    withResourceVersion kit version = { kit with metadata.resourceVersion := version } :=
  rfl

@[simp]
theorem Build.withResourceVersion_eq (build : Build) (version : Nat) :
    withResourceVersion build version = { build with metadata.resourceVersion := version } :=
  rfl

@[simp]
theorem Integration.withResourceVersion_eq (integration : Integration) (version : Nat) :
    withResourceVersion integration version =
      { integration with metadata.resourceVersion := version } :=
  rfl

/-! ## The store operations, inverted -/

namespace Store

theorem answer_eq {β : Type} {store next : Store} {result : Except Error (β × Store)}
    {answer : Except Error β} (answered : store.answer result = (answer, next)) :
    (∃ value, answer = .ok value ∧ result = .ok (value, next)) ∨
      (∃ err, answer = .error err ∧ next = store) := by
  rcases result with err | ⟨value, written⟩ <;> cases answered
  · exact .inr ⟨err, rfl, rfl⟩
  · exact .inl ⟨value, rfl, rfl⟩

theorem map_eq_ok {β γ : Type} {result : Except Error β} {f : β → γ} {value : γ}
    (mapped : result.map f = .ok value) : ∃ held, result = .ok held ∧ value = f held := by
  cases result with
  | error => cases mapped
  | ok held => exact ⟨held, rfl, (Except.ok.inj mapped).symm⟩

theorem answer_eq_error {β : Type} {store next : Store} {result : Except Error (β × Store)}
    {err : Error} (answered : store.answer result = (.error err, next)) :
    result = .error err ∧ next = store := by
  rcases result with _ | ⟨_, _⟩ <;> cases answered
  exact ⟨rfl, rfl⟩

theorem map_eq_error {β γ : Type} {result : Except Error β} {f : β → γ} {err : Error}
    (mapped : result.map f = .error err) : result = .error err := by
  cases result <;> cases mapped
  rfl

theorem updateKit_ok {store next : Store} {kit : IntegrationKit} {version : Nat}
    (written : store.updateKit kit = .ok (version, next)) :
    ∃ held, store.kits.get (key kit) = some held ∧ version = store.revision + 1 ∧
      next = store.setKit { kit with status := held.status } := by
  obtain ⟨held, current, same⟩ := map_eq_ok written
  cases same
  exact ⟨held, (Table.get_of_current current).1, rfl, rfl⟩

theorem updateKitStatus_ok {store next : Store} {kit : IntegrationKit} {version : Nat}
    (written : store.updateKitStatus kit = .ok (version, next)) :
    ∃ held, store.kits.get (key kit) = some held ∧ version = store.revision + 1 ∧
      next = store.setKit { held with status := kit.status } := by
  obtain ⟨held, current, same⟩ := map_eq_ok written
  cases same
  exact ⟨held, (Table.get_of_current current).1, rfl, rfl⟩

theorem updateIntegrationStatus_ok {store next : Store} {integration : Integration}
    {version : Nat} (written : store.updateIntegrationStatus integration = .ok (version, next)) :
    ∃ held, store.integrations.get (key integration) = some held ∧
      version = store.revision + 1 ∧
      next = store.setIntegration { held with status := integration.status } := by
  obtain ⟨held, current, same⟩ := map_eq_ok written
  cases same
  exact ⟨held, (Table.get_of_current current).1, rfl, rfl⟩

theorem createBuild_ok {store next : Store} {build : Build} {version : Nat}
    (written : store.createBuild build = .ok (version, next)) :
    store.builds.get (key build) = none ∧ version = store.revision + 1 ∧
      next = store.insertBuild build := by
  unfold createBuild at written
  split at written
  · cases written
  · cases written
    exact ⟨Option.not_isSome_iff_eq_none.mp ‹_›, rfl, rfl⟩

theorem deleteBuild_ok {store next : Store} {build : Build}
    (written : store.deleteBuild build = .ok next) :
    (store.builds.get (key build)).isSome ∧ next = store.eraseBuild (key build) := by
  unfold deleteBuild at written
  split at written
  · cases written
    exact ⟨‹_›, rfl⟩
  · cases written

end Store

/-! ## The successful writes of an event -/

/-- What an event does to the kit held under `name`: an accepted `Update` takes
the writer's kit and keeps the stored status, an accepted `Status().Update`
takes the writer's status; the store writes the answered version back. -/
def Event.kitWrite (name : NamespacedName) : Event → Option IntegrationKit → Option IntegrationKit
  | ⟨.updateKit kit, .ok version⟩ =>
      if key kit = name then
        Option.map fun held => withResourceVersion { kit with status := held.status } version
      else id
  | ⟨.updateKitStatus kit, .ok version⟩ =>
      if key kit = name then
        Option.map fun held => withResourceVersion { held with status := kit.status } version
      else id
  | _ => id

/-- What an event does to the build held under `name`. -/
def Event.buildWrite (name : NamespacedName) : Event → Option Build → Option Build
  | ⟨.deleteBuild build, .ok ()⟩ => if key build = name then fun _ => none else id
  | ⟨.createBuild build, .ok version⟩ =>
      if key build = name then fun _ => some (withResourceVersion build version) else id
  | _ => id

/-- What an event does to the integration held under `name`. -/
def Event.integrationWrite (name : NamespacedName) :
    Event → Option Integration → Option Integration
  | ⟨.updateIntegrationStatus integration, .ok version⟩ =>
      if key integration = name then
        Option.map fun held => withResourceVersion { held with status := integration.status } version
      else id
  | _ => id

/-- The objects held under `name` after a sequence of events, replayed from the
ones held before. -/
def replayKit (name : NamespacedName) (events : List Event) (held : Option IntegrationKit) :
    Option IntegrationKit :=
  events.foldl (fun held event => event.kitWrite name held) held

@[inherit_doc replayKit]
def replayBuild (name : NamespacedName) (events : List Event) (held : Option Build) :
    Option Build :=
  events.foldl (fun held event => event.buildWrite name held) held

@[inherit_doc replayKit]
def replayIntegration (name : NamespacedName) (events : List Event) (held : Option Integration) :
    Option Integration :=
  events.foldl (fun held event => event.integrationWrite name held) held

@[simp]
theorem replayKit_nil (name : NamespacedName) (held : Option IntegrationKit) :
    replayKit name [] held = held :=
  rfl

@[simp]
theorem replayKit_cons (name : NamespacedName) (event : Event) (events : List Event)
    (held : Option IntegrationKit) :
    replayKit name (event :: events) held = replayKit name events (event.kitWrite name held) :=
  rfl

@[simp]
theorem replayBuild_nil (name : NamespacedName) (held : Option Build) :
    replayBuild name [] held = held :=
  rfl

@[simp]
theorem replayBuild_cons (name : NamespacedName) (event : Event) (events : List Event)
    (held : Option Build) :
    replayBuild name (event :: events) held = replayBuild name events (event.buildWrite name held) :=
  rfl

@[simp]
theorem replayIntegration_nil (name : NamespacedName) (held : Option Integration) :
    replayIntegration name [] held = held :=
  rfl

@[simp]
theorem replayIntegration_cons (name : NamespacedName) (event : Event) (events : List Event)
    (held : Option Integration) :
    replayIntegration name (event :: events) held =
      replayIntegration name events (event.integrationWrite name held) :=
  rfl

theorem replayKit_append (name : NamespacedName) (first second : List Event)
    (held : Option IntegrationKit) :
    replayKit name (first ++ second) held = replayKit name second (replayKit name first held) :=
  List.foldl_append ..

theorem replayBuild_append (name : NamespacedName) (first second : List Event)
    (held : Option Build) :
    replayBuild name (first ++ second) held = replayBuild name second (replayBuild name first held) :=
  List.foldl_append ..

theorem replayIntegration_append (name : NamespacedName) (first second : List Event)
    (held : Option Integration) :
    replayIntegration name (first ++ second) held =
      replayIntegration name second (replayIntegration name first held) :=
  List.foldl_append ..

/-! ## One call -/

namespace Store

variable {store next : Store} {version : Nat}

theorem updateKit_kits_get {kit : IntegrationKit} (written : store.updateKit kit = .ok (version, next))
    (name : NamespacedName) :
    next.kits.get name = Event.kitWrite name ⟨.updateKit kit, .ok version⟩ (store.kits.get name) := by
  obtain ⟨held, found, rfl, rfl⟩ := updateKit_ok written
  simp only [IntegrationKit.key_eq] at found
  simp only [Event.kitWrite, setKit, Table.get_set_eq, key_withResourceVersion,
    IntegrationKit.key_eq]
  split
  · subst name
    simp [found]
  · rfl

theorem updateKitStatus_kits_get {kit : IntegrationKit}
    (written : store.updateKitStatus kit = .ok (version, next)) (name : NamespacedName) :
    next.kits.get name =
      Event.kitWrite name ⟨.updateKitStatus kit, .ok version⟩ (store.kits.get name) := by
  obtain ⟨held, found, rfl, rfl⟩ := updateKitStatus_ok written
  have sameKey : held.metadata.namespacedName = kit.metadata.namespacedName :=
    Table.key_of_get found
  simp only [IntegrationKit.key_eq] at found
  simp only [Event.kitWrite, setKit, Table.get_set_eq, key_withResourceVersion,
    IntegrationKit.key_eq, sameKey]
  split
  · subst name
    simp [found]
  · rfl

end Store

/-- The events the store accepted as writes: a write call answered with success. -/
def Event.accepted : Event → Bool
  | ⟨.updateKit _, .ok _⟩ => true
  | ⟨.updateKitStatus _, .ok _⟩ => true
  | ⟨.deleteBuild _, .ok _⟩ => true
  | ⟨.createBuild _, .ok _⟩ => true
  | ⟨.updateIntegrationStatus _, .ok _⟩ => true
  | _ => false

theorem Event.kitWrite_of_not_accepted {event : Event} (rejected : event.accepted = false)
    (name : NamespacedName) : event.kitWrite name = id := by
  obtain ⟨call, answer⟩ := event
  cases call <;> cases answer <;> first | rfl | cases rejected

/-- No event adds or removes a kit or an integration: it writes the one held
under the name, or nothing. -/
@[simp]
theorem Event.kitWrite_isSome (event : Event) (name : NamespacedName)
    (held : Option IntegrationKit) : (event.kitWrite name held).isSome = held.isSome := by
  obtain ⟨call, answer⟩ := event
  cases call <;> cases answer <;> first | rfl | (simp only [Event.kitWrite]; split <;> simp)

@[inherit_doc Event.kitWrite_isSome, simp]
theorem Event.integrationWrite_isSome (event : Event) (name : NamespacedName)
    (held : Option Integration) : (event.integrationWrite name held).isSome = held.isSome := by
  obtain ⟨call, answer⟩ := event
  cases call <;> cases answer <;>
    first | rfl | (simp only [Event.integrationWrite]; split <;> simp)

theorem Event.buildWrite_of_not_accepted {event : Event} (rejected : event.accepted = false)
    (name : NamespacedName) : event.buildWrite name = id := by
  obtain ⟨call, answer⟩ := event
  cases call <;> cases answer <;> first | rfl | cases rejected

theorem Event.integrationWrite_of_not_accepted {event : Event} (rejected : event.accepted = false)
    (name : NamespacedName) : event.integrationWrite name = id := by
  obtain ⟨call, answer⟩ := event
  cases call <;> cases answer <;> first | rfl | cases rejected

namespace Store

variable {store next : Store} {version : Nat}

theorem deleteBuild_builds_get {build : Build} (written : store.deleteBuild build = .ok next)
    (name : NamespacedName) :
    next.builds.get name = Event.buildWrite name ⟨.deleteBuild build, .ok ()⟩ (store.builds.get name) := by
  rw [(deleteBuild_ok written).2]
  simp only [Event.buildWrite, eraseBuild, Table.get_erase]
  by_cases same : build.metadata.namespacedName = name
  · simp [same]
  · simp [same, Ne.symm same]

theorem createBuild_builds_get {build : Build} (written : store.createBuild build = .ok (version, next))
    (name : NamespacedName) :
    next.builds.get name =
      Event.buildWrite name ⟨.createBuild build, .ok version⟩ (store.builds.get name) := by
  obtain ⟨absent, rfl, rfl⟩ := createBuild_ok written
  simp only [Event.buildWrite, insertBuild]
  rw [Table.get_insert _ _ (by simpa using absent)]
  by_cases same : build.metadata.namespacedName = name
  · simp [same]
  · simp [same, Ne.symm same]

theorem updateIntegrationStatus_integrations_get {integration : Integration}
    (written : store.updateIntegrationStatus integration = .ok (version, next))
    (name : NamespacedName) :
    next.integrations.get name = Event.integrationWrite name
      ⟨.updateIntegrationStatus integration, .ok version⟩ (store.integrations.get name) := by
  obtain ⟨held, found, rfl, rfl⟩ := updateIntegrationStatus_ok written
  have sameKey : held.metadata.namespacedName = integration.metadata.namespacedName :=
    Table.key_of_get found
  simp only [Integration.key_eq] at found
  simp only [Event.integrationWrite, setIntegration, Table.get_set_eq, key_withResourceVersion,
    Integration.key_eq, sameKey]
  split
  · subst name
    simp [found]
  · rfl

end Store

section Responds

variable {store next : Store} {call : Call} {answer : Except Error call.Out}

/-- The store a call leaves: the same one, the call being no accepted write, or
the one an accepted write made. -/
theorem Responds.store_cases (responds : Responds store call answer next) :
    (next = store ∧ Event.accepted ⟨call, answer⟩ = false) ∨
      (∃ kit version, (⟨call, answer⟩ : Event) = ⟨.updateKit kit, .ok version⟩ ∧
        store.updateKit kit = .ok (version, next)) ∨
      (∃ kit version, (⟨call, answer⟩ : Event) = ⟨.updateKitStatus kit, .ok version⟩ ∧
        store.updateKitStatus kit = .ok (version, next)) ∨
      (∃ build, (⟨call, answer⟩ : Event) = ⟨.deleteBuild build, .ok ()⟩ ∧
        store.deleteBuild build = .ok next) ∨
      (∃ build version, (⟨call, answer⟩ : Event) = ⟨.createBuild build, .ok version⟩ ∧
        store.createBuild build = .ok (version, next)) ∨
      (∃ integration version,
        (⟨call, answer⟩ : Event) = ⟨.updateIntegrationStatus integration, .ok version⟩ ∧
        store.updateIntegrationStatus integration = .ok (version, next)) := by
  cases responds with
  | fail => exact .inl ⟨rfl, by cases call <;> rfl⟩
  | collaborate unserved => exact .inl ⟨rfl, by cases call <;> cases unserved <;> rfl⟩
  | serve served =>
      cases call <;>
        simp only [Call.serve, Option.some.injEq, Prod.mk.injEq, reduceCtorEq] at served
      case getKit | getBuild | listIntegrations => exact .inl ⟨served.2.symm, rfl⟩
      all_goals rcases Store.answer_eq served with ⟨value, rfl, written⟩ | ⟨_, rfl, rfl⟩
      all_goals try exact .inl ⟨rfl, rfl⟩
      · exact .inr (.inl ⟨_, value, rfl, written⟩)
      · exact .inr (.inr (.inl ⟨_, value, rfl, written⟩))
      · obtain ⟨_, written, same⟩ := Store.map_eq_ok written
        cases same
        exact .inr (.inr (.inr (.inl ⟨_, rfl, written⟩)))
      · exact .inr (.inr (.inr (.inr (.inl ⟨_, value, rfl, written⟩))))
      · exact .inr (.inr (.inr (.inr (.inr ⟨_, value, rfl, written⟩))))

theorem Responds.eq_of_not_accepted (responds : Responds store call answer next)
    (rejected : Event.accepted ⟨call, answer⟩ = false) : next = store := by
  rcases responds.store_cases with ⟨rfl, _⟩ | ⟨_, _, same, _⟩ | ⟨_, _, same, _⟩ |
    ⟨_, same, _⟩ | ⟨_, _, same, _⟩ | ⟨_, _, same, _⟩ <;>
    first | rfl | simp [same, Event.accepted] at rejected

theorem Responds.kits_get (responds : Responds store call answer next) (name : NamespacedName) :
    next.kits.get name = Event.kitWrite name ⟨call, answer⟩ (store.kits.get name) := by
  rcases responds.store_cases with ⟨rfl, rejected⟩ | ⟨_, _, same, written⟩ |
    ⟨_, _, same, written⟩ | ⟨_, same, written⟩ | ⟨_, _, same, written⟩ | ⟨_, _, same, written⟩
  · rw [Event.kitWrite_of_not_accepted rejected]; rfl
  · rw [same]; exact Store.updateKit_kits_get written name
  · rw [same]; exact Store.updateKitStatus_kits_get written name
  · rw [same, (Store.deleteBuild_ok written).2]; rfl
  · rw [same, (Store.createBuild_ok written).2.2]; rfl
  · obtain ⟨_, _, _, rfl⟩ := Store.updateIntegrationStatus_ok written
    rw [same]; rfl

theorem Responds.builds_get (responds : Responds store call answer next) (name : NamespacedName) :
    next.builds.get name = Event.buildWrite name ⟨call, answer⟩ (store.builds.get name) := by
  rcases responds.store_cases with ⟨rfl, rejected⟩ | ⟨_, _, same, written⟩ |
    ⟨_, _, same, written⟩ | ⟨_, same, written⟩ | ⟨_, _, same, written⟩ | ⟨_, _, same, written⟩
  · rw [Event.buildWrite_of_not_accepted rejected]; rfl
  · obtain ⟨_, _, _, rfl⟩ := Store.updateKit_ok written
    rw [same]; rfl
  · obtain ⟨_, _, _, rfl⟩ := Store.updateKitStatus_ok written
    rw [same]; rfl
  · rw [same]; exact Store.deleteBuild_builds_get written name
  · rw [same]; exact Store.createBuild_builds_get written name
  · obtain ⟨_, _, _, rfl⟩ := Store.updateIntegrationStatus_ok written
    rw [same]; rfl

theorem Responds.integrations_get (responds : Responds store call answer next)
    (name : NamespacedName) :
    next.integrations.get name =
      Event.integrationWrite name ⟨call, answer⟩ (store.integrations.get name) := by
  rcases responds.store_cases with ⟨rfl, rejected⟩ | ⟨_, _, same, written⟩ |
    ⟨_, _, same, written⟩ | ⟨_, same, written⟩ | ⟨_, _, same, written⟩ | ⟨_, _, same, written⟩
  · rw [Event.integrationWrite_of_not_accepted rejected]; rfl
  · obtain ⟨_, _, _, rfl⟩ := Store.updateKit_ok written
    rw [same]; rfl
  · obtain ⟨_, _, _, rfl⟩ := Store.updateKitStatus_ok written
    rw [same]; rfl
  · rw [same, (Store.deleteBuild_ok written).2]; rfl
  · rw [same, (Store.createBuild_ok written).2.2]; rfl
  · rw [same]; exact Store.updateIntegrationStatus_integrations_get written name

end Responds

/-! ## Reads -/

section Reads

variable {store next : Store}

theorem Responds.getKit_answer {name : NamespacedName} {answer : Except Error IntegrationKit}
    (responds : Responds store (.getKit name) answer next) :
    next = store ∧ (∀ kit, answer = .ok kit → store.kits.get name = some kit) ∧
      ∀ err, answer = .error err → err.reason = .notFound → store.kits.get name = none := by
  cases responds with
  | fail _ transient =>
      refine ⟨rfl, nofun, fun _ same notFound => absurd ?_ transient⟩
      cases same
      exact notFound
  | collaborate unserved => cases unserved
  | serve served =>
      simp only [Call.serve, Option.some.injEq, Prod.mk.injEq] at served
      obtain ⟨answered, rfl⟩ := served
      subst answered
      unfold Store.getKit
      split <;> simp_all [Error.notFound]

theorem Responds.getBuild_answer {name : NamespacedName} {answer : Except Error Build}
    (responds : Responds store (.getBuild name) answer next) :
    next = store ∧ (∀ build, answer = .ok build → store.builds.get name = some build) ∧
      ∀ err, answer = .error err → err.reason = .notFound → store.builds.get name = none := by
  cases responds with
  | fail _ transient =>
      refine ⟨rfl, nofun, fun _ same notFound => absurd ?_ transient⟩
      cases same
      exact notFound
  | collaborate unserved => cases unserved
  | serve served =>
      simp only [Call.serve, Option.some.injEq, Prod.mk.injEq] at served
      obtain ⟨answered, rfl⟩ := served
      subst answered
      unfold Store.getBuild
      split <;> simp_all [Error.notFound]

theorem Responds.listIntegrations_answer {ns : String} {answer : Except Error (List Integration)}
    (responds : Responds store (.listIntegrations ns) answer next) :
    next = store ∧ ∀ items, answer = .ok items → items = store.integrations.list ns := by
  cases responds with
  | fail => exact ⟨rfl, nofun⟩
  | collaborate unserved => cases unserved
  | serve served =>
      simp only [Call.serve, Option.some.injEq, Prod.mk.injEq] at served
      obtain ⟨rfl, rfl⟩ := served
      exact ⟨rfl, fun _ same => (Except.ok.inj same).symm⟩

theorem Responds.deleteBuild_notFound {build : Build} {err : Error}
    (responds : Responds store (.deleteBuild build) (.error err) next)
    (notFound : err.reason = .notFound) : store.builds.get (key build) = none := by
  cases responds with
  | fail _ transient => exact absurd notFound transient
  | collaborate unserved => cases unserved
  | serve served =>
      simp only [Call.serve, Option.some.injEq, Prod.mk.injEq] at served
      unfold Store.deleteBuild at served
      split at served
      · cases served
      · exact Option.not_isSome_iff_eq_none.mp ‹_›

end Reads

/-! ## A sequence of calls -/

section Responses

variable {store final : Store} {events : List Event}

theorem Responses.kits_get (responses : Responses store events final) (name : NamespacedName) :
    final.kits.get name = replayKit name events (store.kits.get name) := by
  induction responses with
  | nil => rfl
  | cons responds _ ih => rw [ih, responds.kits_get]; rfl

theorem Responses.builds_get (responses : Responses store events final) (name : NamespacedName) :
    final.builds.get name = replayBuild name events (store.builds.get name) := by
  induction responses with
  | nil => rfl
  | cons responds _ ih => rw [ih, responds.builds_get]; rfl

theorem Responses.integrations_get (responses : Responses store events final)
    (name : NamespacedName) :
    final.integrations.get name = replayIntegration name events (store.integrations.get name) := by
  induction responses with
  | nil => rfl
  | cons responds _ ih => rw [ih, responds.integrations_get]; rfl

/-- A successful first read answered what the store held, and changed nothing. -/
theorem Responses.getKit_head {name : NamespacedName} {kit : IntegrationKit} {rest : List Event}
    (responses : Responses store (⟨.getKit name, .ok kit⟩ :: rest) final) :
    store.kits.get name = some kit ∧ Responses store rest final := by
  obtain ⟨middle, fetched, following⟩ := responses_cons.mp responses
  obtain ⟨rfl, storedOk, -⟩ := fetched.getKit_answer
  exact ⟨storedOk kit rfl, following⟩

@[inherit_doc Responses.getKit_head]
theorem Responses.getBuild_head {name : NamespacedName} {build : Build} {rest : List Event}
    (responses : Responses store (⟨.getBuild name, .ok build⟩ :: rest) final) :
    store.builds.get name = some build ∧ Responses store rest final := by
  obtain ⟨middle, fetched, following⟩ := responses_cons.mp responses
  obtain ⟨rfl, storedOk, -⟩ := fetched.getBuild_answer
  exact ⟨storedOk build rfl, following⟩

/-- Calls of which the store accepted no write leave it as it was. -/
theorem Responses.eq_of_not_accepted (responses : Responses store events final)
    (rejected : ∀ event ∈ events, event.accepted = false) : final = store := by
  induction responses with
  | nil => rfl
  | cons responds _ ih =>
      simp only [List.mem_cons, forall_eq_or_imp] at rejected
      rw [ih rejected.2, responds.eq_of_not_accepted rejected.1]

/-- The same, with the calls checked one by one by computation: on a pass whose
events are known up to their data, the check closes by `rfl`. -/
theorem Responses.unchanged_of_all_rejected (responses : Responses store events final)
    (rejected : (events.all fun event => !event.accepted) = true) :
    final = store ∧ ∀ event ∈ events, event.accepted = false := by
  have each : ∀ event ∈ events, event.accepted = false := by simpa using rejected
  exact ⟨responses.eq_of_not_accepted each, each⟩

end Responses

end CamelK
