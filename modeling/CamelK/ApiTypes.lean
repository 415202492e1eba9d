import Mathlib.Logic.Basic

/-!
# The v1alpha1 resources of the integration kit controller

The integration kit actions read and write three kinds of resources: the
`IntegrationKit` they reconcile, the one-shot `Build` it owns, and the
`Integration`s that wait for it.  This file keeps, of each, the fields the
actions of `pkg/controller/integrationkit` read or write, the phase constants
they compare against, and the API errors the store answers with.
-/

namespace CamelK

/-- The identity of a namespaced resource, `types.NamespacedName`. -/
structure NamespacedName where
  «namespace» : String
  name : String
  deriving DecidableEq, Repr

/-- An owner reference; only the fields `SetControllerReference` compares. -/
structure OwnerReference where
  kind : String
  name : String
  controller : Bool
  deriving DecidableEq, Repr

/-- The object metadata the actions read, copy or get written back by the store. -/
structure ObjectMeta where
  «namespace» : String := ""
  name : String := ""
  resourceVersion : Nat := 0
  ownerReferences : List OwnerReference := []
  deriving DecidableEq, Repr

def ObjectMeta.namespacedName (meta : ObjectMeta) : NamespacedName :=
  ⟨meta.namespace, meta.name⟩

/-- A built artifact: its identifier, where the build left it, and its target path. -/
structure Artifact where
  id : String := ""
  location : String := ""
  target : String := ""
  deriving DecidableEq, Repr

/-- The failure detail a build reports and a kit copies. -/
structure Failure where
  reason : String
  deriving DecidableEq, Repr

/-! ## Integration kits -/

structure IntegrationKitSpec where
  image : String := ""
  dependencies : List String := []
  deriving DecidableEq, Repr

structure IntegrationKitStatus where
  phase : String := ""
  baseImage : String := ""
  image : String := ""
  publicImage : String := ""
  digest : String := ""
  artifacts : List Artifact := []
  failure : Option Failure := none
  deriving DecidableEq, Repr

structure IntegrationKit where
  metadata : ObjectMeta := {}
  spec : IntegrationKitSpec := {}
  status : IntegrationKitStatus := {}
  deriving DecidableEq, Repr

/-- Modelled from the spec: the phase constants of `v1alpha1` are not under
`src/`; the spec names the kit phases `""`, `BuildSubmitted`, `BuildRunning`,
`Ready` and `Error`. -/
def integrationKitPhaseNone : String := ""

@[inherit_doc integrationKitPhaseNone]
def integrationKitPhaseBuildSubmitted : String := "BuildSubmitted"

@[inherit_doc integrationKitPhaseNone]
def integrationKitPhaseBuildRunning : String := "BuildRunning"

@[inherit_doc integrationKitPhaseNone]
def integrationKitPhaseReady : String := "Ready"

@[inherit_doc integrationKitPhaseNone]
def integrationKitPhaseError : String := "Error"

/-! ## Builds -/

/-- The part of the platform a build takes a snapshot of. -/
structure IntegrationPlatformSpec where
  cluster : String := ""
  publishStrategy : String := ""
  deriving DecidableEq, Repr

structure BuildSpec where
  meta : ObjectMeta := {}
  camelVersion : String := ""
  runtimeVersion : String := ""
  platform : IntegrationPlatformSpec := {}
  dependencies : List String := []
  steps : List String := []
  buildDir : String := ""
  deriving DecidableEq, Repr

structure BuildStatus where
  phase : String := ""
  baseImage : String := ""
  image : String := ""
  publicImage : String := ""
  artifacts : List Artifact := []
  failure : Option Failure := none
  deriving DecidableEq, Repr

structure Build where
  metadata : ObjectMeta := {}
  spec : BuildSpec := {}
  status : BuildStatus := {}
  deriving DecidableEq, Repr

/-- Modelled from the spec: the build phase constants of `v1alpha1` are not
under `src/`; the spec names `Running`, `Succeeded`, `Error` and `Interrupted`. -/
def buildPhaseRunning : String := "Running"

@[inherit_doc buildPhaseRunning]
def buildPhaseSucceeded : String := "Succeeded"

@[inherit_doc buildPhaseRunning]
def buildPhaseError : String := "Error"

@[inherit_doc buildPhaseRunning]
def buildPhaseInterrupted : String := "Interrupted"

/-! ## Integrations -/

structure IntegrationStatus where
  phase : String := ""
  kit : String := ""
  deriving DecidableEq, Repr

structure Integration where
  metadata : ObjectMeta := {}
  status : IntegrationStatus := {}
  deriving DecidableEq, Repr

/-- Modelled from the spec: `v1alpha1.IntegrationPhaseResolvingKit` is not under
`src/`; the spec calls the phase `ResolvingKit`. -/
def integrationPhaseResolvingKit : String := "ResolvingKit"

/-! ## Trait environment -/

/-- The catalog the traits resolve; the build records its version. -/
structure CamelCatalog where
  version : String
  deriving DecidableEq, Repr

/-- A build step; a build records only the identifiers of its steps. -/
structure Step where
  id : String
  deriving DecidableEq, Repr

structure IntegrationPlatform where
  spec : IntegrationPlatformSpec := {}
  deriving DecidableEq, Repr

/-- What `trait.Apply` computes for a kit: the fields the build action reads. -/
structure Environment where
  camelCatalog : Option CamelCatalog := none
  runtimeVersion : String := ""
  platform : IntegrationPlatform := {}
  steps : List Step := []
  buildDir : String := ""
  deriving DecidableEq, Repr

/-- `builder.StepIDsFor`. -/
def stepIDsFor (steps : List Step) : List String :=
  steps.map Step.id

/-! ## Errors -/

/-- The API status reasons the controller tells apart. -/
inductive StatusReason
  | notFound
  | conflict
  | alreadyExists
  | unknown
  deriving DecidableEq, Repr

/-- An error as the controller sees it: the API reason `k8serrors` reads off it,
and its text. -/
structure Error where
  reason : StatusReason
  message : String
  deriving DecidableEq, Repr

/-- `k8serrors.IsNotFound`. -/
def Error.isNotFound (err : Error) : Bool :=
  err.reason == .notFound

/-- `errors.New`: a plain error, with no API reason. -/
def Error.new (message : String) : Error :=
  ⟨.unknown, message⟩

/-- `errors.Wrap`: the wrapper carries no API reason of its own. -/
def Error.wrap (err : Error) (message : String) : Error :=
  ⟨.unknown, message ++ ": " ++ err.message⟩

@[simp]
theorem Error.isNotFound_iff (err : Error) : err.isNotFound ↔ err.reason = .notFound := by
  simp [Error.isNotFound]

@[simp]
theorem Error.wrap_isNotFound (err : Error) (message : String) :
    (err.wrap message).isNotFound = false :=
  rfl

end CamelK
