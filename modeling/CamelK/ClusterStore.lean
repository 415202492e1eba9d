import CamelK.ResourceTable

/-!
# The cluster store behind the controller's client

The actions reach the API server through a client that gets, lists, creates,
updates and deletes resources named by namespace and name.  The store keeps a
global revision, as etcd does: every write advances it and stamps the written
object with it as the object's resource version, and an update lands only when
the writer holds the stored resource version.  Kits, builds and integrations
have a status subresource, so `Update` keeps the stored status and
`Status().Update` keeps everything but the status.

A call may also fail for reasons of its own (a timeout, a lost connection); it
then changes nothing.  The collaborators the actions call that are not the
store (the platform lookup, trait composition, the digest) may answer anything.
-/

namespace CamelK

open Resource

/-- `k8serrors.NewNotFound`: the qualified resource, then the quoted name. -/
def Error.notFound (resource : String) (name : NamespacedName) : Error :=
  ⟨.notFound, resource ++ " \"" ++ name.name ++ "\" not found"⟩

/-- `k8serrors.NewConflict`, the answer to an update from a stale version. -/
def Error.conflict (resource : String) (name : NamespacedName) : Error :=
  ⟨.conflict, "Operation cannot be fulfilled on " ++ resource ++ " \"" ++ name.name ++
    "\": the object has been modified; please apply your changes to the latest version " ++
    "and try again"⟩

/-- `k8serrors.NewAlreadyExists`. -/
def Error.alreadyExists (resource : String) (name : NamespacedName) : Error :=
  ⟨.alreadyExists, resource ++ " \"" ++ name.name ++ "\" already exists"⟩

namespace Table

variable {α : Type} [Resource α]

/-- The stored object an update of `object` replaces, when the writer holds its
resource version. -/
def current (table : Table α) (object : α) : Except Error α :=
  match table.get (key object) with
  | none => .error (.notFound (Resource.resource α) (key object))
  | some held =>
      if resourceVersion held = resourceVersion object then .ok held
      else .error (.conflict (Resource.resource α) (key object))

theorem get_of_current {table : Table α} {object held : α}
    (found : table.current object = .ok held) :
    table.get (key object) = some held ∧ resourceVersion held = resourceVersion object := by
  unfold current at found
  split at found
  · cases found
  · split at found
    · cases found
      exact ⟨‹_›, ‹_›⟩
    · cases found

/-- An update answered NotFound names no stored object. -/
theorem current_notFound {table : Table α} {object : α} {err : Error}
    (failed : table.current object = .error err) (notFound : err.reason = .notFound) :
    table.get (key object) = none := by
  unfold current at failed
  split at failed
  · assumption
  · split at failed <;> cases failed
    cases notFound

end Table

/-- What the controller's client reads and writes: the global revision and one
table per resource kind, every held object stamped at or below the revision. -/
structure Store where
  revision : Nat
  kits : Table IntegrationKit
  builds : Table Build
  integrations : Table Integration
  versionsBelow : kits.VersionsBelow revision ∧ builds.VersionsBelow revision ∧
    integrations.VersionsBelow revision

namespace Store

/-- The store of a fresh cluster: no object, revision zero. -/
def empty : Store where
  revision := 0
  kits := ⟨[], List.nodup_nil⟩
  builds := ⟨[], List.nodup_nil⟩
  integrations := ⟨[], List.nodup_nil⟩
  versionsBelow := ⟨nofun, nofun, nofun⟩

/-! ## Writes under the next revision -/

def setKit (store : Store) (kit : IntegrationKit) : Store :=
  { store with
    revision := store.revision + 1
    kits := store.kits.set (withResourceVersion kit (store.revision + 1))
    versionsBelow := ⟨store.versionsBelow.1.stamp kit,
      store.versionsBelow.2.1.mono (Nat.le_succ _),
      store.versionsBelow.2.2.mono (Nat.le_succ _)⟩ }

def setBuild (store : Store) (build : Build) : Store :=
  { store with
    revision := store.revision + 1
    builds := store.builds.set (withResourceVersion build (store.revision + 1))
    versionsBelow := ⟨store.versionsBelow.1.mono (Nat.le_succ _),
      store.versionsBelow.2.1.stamp build,
      store.versionsBelow.2.2.mono (Nat.le_succ _)⟩ }

def setIntegration (store : Store) (integration : Integration) : Store :=
  { store with
    revision := store.revision + 1
    integrations := store.integrations.set (withResourceVersion integration (store.revision + 1))
    versionsBelow := ⟨store.versionsBelow.1.mono (Nat.le_succ _),
      store.versionsBelow.2.1.mono (Nat.le_succ _),
      store.versionsBelow.2.2.stamp integration⟩ }

def insertKit (store : Store) (kit : IntegrationKit) : Store :=
  { store with
    revision := store.revision + 1
    kits := store.kits.insert (withResourceVersion kit (store.revision + 1))
    versionsBelow := ⟨(store.versionsBelow.1.mono (Nat.le_succ _)).insert (by simp),
      store.versionsBelow.2.1.mono (Nat.le_succ _),
      store.versionsBelow.2.2.mono (Nat.le_succ _)⟩ }

def insertBuild (store : Store) (build : Build) : Store :=
  { store with
    revision := store.revision + 1
    builds := store.builds.insert (withResourceVersion build (store.revision + 1))
    versionsBelow := ⟨store.versionsBelow.1.mono (Nat.le_succ _),
      (store.versionsBelow.2.1.mono (Nat.le_succ _)).insert (by simp),
      store.versionsBelow.2.2.mono (Nat.le_succ _)⟩ }

def insertIntegration (store : Store) (integration : Integration) : Store :=
  { store with
    revision := store.revision + 1
    integrations := store.integrations.insert (withResourceVersion integration (store.revision + 1))
    versionsBelow := ⟨store.versionsBelow.1.mono (Nat.le_succ _),
      store.versionsBelow.2.1.mono (Nat.le_succ _),
      (store.versionsBelow.2.2.mono (Nat.le_succ _)).insert (by simp)⟩ }

def eraseKit (store : Store) (name : NamespacedName) : Store :=
  { store with
    revision := store.revision + 1
    kits := store.kits.erase name
    versionsBelow := ⟨(store.versionsBelow.1.mono (Nat.le_succ _)).erase name,
      store.versionsBelow.2.1.mono (Nat.le_succ _),
      store.versionsBelow.2.2.mono (Nat.le_succ _)⟩ }

def eraseBuild (store : Store) (name : NamespacedName) : Store :=
  { store with
    revision := store.revision + 1
    builds := store.builds.erase name
    versionsBelow := ⟨store.versionsBelow.1.mono (Nat.le_succ _),
      (store.versionsBelow.2.1.mono (Nat.le_succ _)).erase name,
      store.versionsBelow.2.2.mono (Nat.le_succ _)⟩ }

def eraseIntegration (store : Store) (name : NamespacedName) : Store :=
  { store with
    revision := store.revision + 1
    integrations := store.integrations.erase name
    versionsBelow := ⟨store.versionsBelow.1.mono (Nat.le_succ _),
      store.versionsBelow.2.1.mono (Nat.le_succ _),
      (store.versionsBelow.2.2.mono (Nat.le_succ _)).erase name⟩ }

/-! ## Client operations -/

/-- The answer to a `Get`. -/
def getKit (store : Store) (name : NamespacedName) : Except Error IntegrationKit :=
  match store.kits.get name with
  | some kit => .ok kit
  | none => .error (.notFound (Resource.resource IntegrationKit) name)

/-- `Update`: metadata and spec from the writer, the stored status kept. -/
def updateKit (store : Store) (kit : IntegrationKit) : Except Error (Nat × Store) :=
  (store.kits.current kit).map fun held =>
    (store.revision + 1, store.setKit { kit with status := held.status })

/-- `Status().Update`: the status from the writer, everything else kept. -/
def updateKitStatus (store : Store) (kit : IntegrationKit) : Except Error (Nat × Store) :=
  (store.kits.current kit).map fun held =>
    (store.revision + 1, store.setKit { held with status := kit.status })

def createKit (store : Store) (kit : IntegrationKit) : Except Error (Nat × Store) :=
  if (store.kits.get (key kit)).isSome then
    .error (.alreadyExists (Resource.resource IntegrationKit) (key kit))
  else .ok (store.revision + 1, store.insertKit kit)

def deleteKit (store : Store) (name : NamespacedName) : Except Error Store :=
  if (store.kits.get name).isSome then .ok (store.eraseKit name)
  else .error (.notFound (Resource.resource IntegrationKit) name)

def getBuild (store : Store) (name : NamespacedName) : Except Error Build :=
  match store.builds.get name with
  | some build => .ok build
  | none => .error (.notFound (Resource.resource Build) name)

/-- `Create`: fails when a build of that name is held. -/
def createBuild (store : Store) (build : Build) : Except Error (Nat × Store) :=
  if (store.builds.get (key build)).isSome then
    .error (.alreadyExists (Resource.resource Build) (key build))
  else .ok (store.revision + 1, store.insertBuild build)

/-- `Delete` of the build named like `build`, with no precondition. -/
def deleteBuild (store : Store) (build : Build) : Except Error Store :=
  if (store.builds.get (key build)).isSome then .ok (store.eraseBuild (key build))
  else .error (.notFound (Resource.resource Build) (key build))

/-- The build executor setting the status of the build it runs. -/
def writeBuildStatus (store : Store) (name : NamespacedName) (status : BuildStatus) :
    Option Store :=
  (store.builds.get name).map fun held => store.setBuild { held with status := status }

def listIntegrations (store : Store) (ns : String) : List Integration :=
  store.integrations.list ns

def updateIntegrationStatus (store : Store) (integration : Integration) :
    Except Error (Nat × Store) :=
  (store.integrations.current integration).map fun held =>
    (store.revision + 1, store.setIntegration { held with status := integration.status })

def createIntegration (store : Store) (integration : Integration) :
    Except Error (Nat × Store) :=
  if (store.integrations.get (key integration)).isSome then
    .error (.alreadyExists (Resource.resource Integration) (key integration))
  else .ok (store.revision + 1, store.insertIntegration integration)

def deleteIntegration (store : Store) (name : NamespacedName) : Except Error Store :=
  if (store.integrations.get name).isSome then .ok (store.eraseIntegration name)
  else .error (.notFound (Resource.resource Integration) name)

end Store

/-! ## The calls of the actions -/

/-- A call the integration kit actions make: to the store through the client,
or to a collaborator outside it. -/
inductive Call where
  | getKit (name : NamespacedName)
  | updateKit (kit : IntegrationKit)
  | updateKitStatus (kit : IntegrationKit)
  | getBuild (name : NamespacedName)
  | deleteBuild (build : Build)
  | createBuild (build : Build)
  | listIntegrations (ns : String)
  | updateIntegrationStatus (integration : Integration)
  | getCurrentPlatform (ns : String)
  | apply (kit : IntegrationKit)
  | computeDigest (kit : IntegrationKit)

/-- What a call returns on success: the object read, the resource version the
store wrote back, the environment and composed spec of `trait.Apply`, or the
digest. -/
@[reducible]
def Call.Out : Call → Type
  | .getKit _ => IntegrationKit
  | .updateKit _ => Nat
  | .updateKitStatus _ => Nat
  | .getBuild _ => Build
  | .deleteBuild _ => Unit
  | .createBuild _ => Nat
  | .listIntegrations _ => List Integration
  | .updateIntegrationStatus _ => Nat
  | .getCurrentPlatform _ => Unit
  | .apply _ => Environment × IntegrationKitSpec
  | .computeDigest _ => String

/-- The calls that write a kit. -/
def Call.writesKit : Call → Bool
  | .updateKit _ | .updateKitStatus _ => true
  | _ => false

/-- The calls that write a build. -/
def Call.writesBuild : Call → Bool
  | .deleteBuild _ | .createBuild _ => true
  | _ => false

/-- The calls that write an integration. -/
def Call.writesIntegration : Call → Bool
  | .updateIntegrationStatus _ => true
  | _ => false

/-- The calls that write to the store. -/
def Call.isWrite (call : Call) : Bool :=
  call.writesKit || call.writesBuild || call.writesIntegration

/-- A client answer together with the store it leaves; a failed write leaves
the store as it was. -/
def Store.answer {β : Type} (store : Store) : Except Error (β × Store) → Except Error β × Store
  | .ok (value, next) => (.ok value, next)
  | .error err => (.error err, store)

/-- The store's own answer to a call, and the store after it; `none` for the
collaborators outside the store. -/
def Call.serve : (call : Call) → Store → Option (Except Error call.Out × Store)
  | .getKit name, store => some (store.getKit name, store)
  | .updateKit kit, store => some (store.answer (store.updateKit kit))
  | .updateKitStatus kit, store => some (store.answer (store.updateKitStatus kit))
  | .getBuild name, store => some (store.getBuild name, store)
  | .deleteBuild build, store =>
      some (store.answer ((store.deleteBuild build).map fun next => ((), next)))
  | .createBuild build, store => some (store.answer (store.createBuild build))
  | .listIntegrations ns, store => some (.ok (store.listIntegrations ns), store)
  | .updateIntegrationStatus integration, store =>
      some (store.answer (store.updateIntegrationStatus integration))
  | .getCurrentPlatform _, _ => none
  | .apply _, _ => none
  | .computeDigest _, _ => none

/-- How one call may be answered: with the store's own answer; for a store
call, with a failure other than NotFound that changes nothing; for a
collaborator, with anything. -/
inductive Responds : Store → (call : Call) → Except Error call.Out → Store → Prop
  | serve {store next : Store} {call : Call} {result : Except Error call.Out} :
      call.serve store = some (result, next) → Responds store call result next
  | fail {store : Store} {call : Call} {err : Error} :
      (call.serve store).isSome → err.reason ≠ .notFound →
        Responds store call (.error err) store
  | collaborate {store : Store} {call : Call} {result : Except Error call.Out} :
      call.serve store = none → Responds store call result store

/-- A successful write of another client to a kit or an integration. -/
inductive ForeignWrite : Store → Store → Prop
  | updateKit {store next : Store} {kit : IntegrationKit} {version : Nat} :
      store.updateKit kit = .ok (version, next) → ForeignWrite store next
  | updateKitStatus {store next : Store} {kit : IntegrationKit} {version : Nat} :
      store.updateKitStatus kit = .ok (version, next) → ForeignWrite store next
  | createKit {store next : Store} {kit : IntegrationKit} {version : Nat} :
      store.createKit kit = .ok (version, next) → ForeignWrite store next
  | deleteKit {store next : Store} {name : NamespacedName} :
      store.deleteKit name = .ok next → ForeignWrite store next
  | updateIntegrationStatus {store next : Store} {integration : Integration} {version : Nat} :
      store.updateIntegrationStatus integration = .ok (version, next) → ForeignWrite store next
  | createIntegration {store next : Store} {integration : Integration} {version : Nat} :
      store.createIntegration integration = .ok (version, next) → ForeignWrite store next
  | deleteIntegration {store next : Store} {name : NamespacedName} :
      store.deleteIntegration name = .ok next → ForeignWrite store next

end CamelK
