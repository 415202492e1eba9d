import CamelK.ClientProgram

/-!
# The initialize action

`initializeAction` handles a kit whose phase is unset.  Once the platform is
there it composes the kit through the traits, writes the composed spec back,
and moves the kit to `BuildSubmitted`, or straight to `Ready` when the kit names
a prebuilt image, with the digest of the result.
-/

namespace CamelK

open Resource Prog

namespace initializeAction

def canHandle (kit : IntegrationKit) : Bool :=
  kit.status.phase == integrationKitPhaseNone

/-- The status `Handle` gives the composed kit before the digest (lines 66 to 76):
built by default, ready at once when created from an image. -/
def initialTarget (target : IntegrationKit) : IntegrationKit :=
  if target.spec.image = "" then
    { target with status.phase := integrationKitPhaseBuildSubmitted }
  else
    { target with status.phase := integrationKitPhaseReady, status.image := target.spec.image }

@[simp]
theorem initialTarget_metadata (target : IntegrationKit) :
    (initialTarget target).metadata = target.metadata := by
  unfold initialTarget; split <;> rfl

@[simp]
theorem initialTarget_spec (target : IntegrationKit) :
    (initialTarget target).spec = target.spec := by
  unfold initialTarget; split <;> rfl

@[simp]
theorem initialTarget_phase (target : IntegrationKit) :
    (initialTarget target).status.phase = if target.spec.image = "" then
      integrationKitPhaseBuildSubmitted else integrationKitPhaseReady := by
  unfold initialTarget; split <;> rfl

def handle (kit : IntegrationKit) : Prog (Except Error Unit) := do
  match ← getCurrentPlatform kit.metadata.namespace with
  | .error _ => pure (.ok ())
  | .ok _ =>
      let target := kit
      match ← traitApply target with
      | .error err => pure (.error err)
      | .ok (_, spec) =>
          let target := { target with spec := spec }
          match ← Client.updateKit target with
          | .error err => pure (.error err)
          | .ok version =>
              let target := initialTarget (withResourceVersion target version)
              match ← computeForIntegrationKit target with
              | .error err => pure (.error err)
              | .ok dgst =>
                  let written ← Client.updateKitStatus { target with status.digest := dgst }
                  pure (written.map fun _ => ())

/-- Every path of `Handle`: waiting for the platform, or composing, writing the
spec, computing the digest and writing the status, stopping at the first
failure. -/
theorem handle_path_cases {kit : IntegrationKit} {events : List Event}
    {result : Except Error Unit} (path : Path (handle kit) events result) :
    (∃ err, events = [⟨.getCurrentPlatform kit.metadata.namespace, .error err⟩] ∧
        result = .ok ()) ∨
      (∃ err, events = [⟨.getCurrentPlatform kit.metadata.namespace, .ok ()⟩,
          ⟨.apply kit, .error err⟩] ∧ result = .error err) ∨
      (∃ env spec err, events = [⟨.getCurrentPlatform kit.metadata.namespace, .ok ()⟩,
          ⟨.apply kit, .ok (env, spec)⟩, ⟨.updateKit { kit with spec := spec }, .error err⟩] ∧
        result = .error err) ∨
      (∃ env spec version err, events = [⟨.getCurrentPlatform kit.metadata.namespace, .ok ()⟩,
          ⟨.apply kit, .ok (env, spec)⟩, ⟨.updateKit { kit with spec := spec }, .ok version⟩,
          ⟨.computeDigest (initialTarget (withResourceVersion { kit with spec := spec } version)),
            .error err⟩] ∧ result = .error err) ∨
      (∃ env spec version dgst answer,
        events = [⟨.getCurrentPlatform kit.metadata.namespace, .ok ()⟩,
          ⟨.apply kit, .ok (env, spec)⟩, ⟨.updateKit { kit with spec := spec }, .ok version⟩,
          ⟨.computeDigest (initialTarget (withResourceVersion { kit with spec := spec } version)),
            .ok dgst⟩,
          ⟨.updateKitStatus { initialTarget (withResourceVersion { kit with spec := spec } version)
            with status.digest := dgst }, answer⟩] ∧
        result = answer.map fun _ => ()) := by
  simp only [handle, getCurrentPlatform, traitApply, Client.updateKit, computeForIntegrationKit,
    Client.updateKitStatus, bind_eq, call_bind, done_bind, pure_eq, path_call, path_done,
    exists_except] at path
  rcases path with ⟨err, _, rfl, rfl, rfl⟩ | ⟨_, _, rfl, ⟨err, _, rfl, rfl, rfl⟩ |
    ⟨⟨env, spec⟩, _, rfl, ⟨err, _, rfl, rfl, rfl⟩ | ⟨version, _, rfl, ⟨err, _, rfl, rfl, rfl⟩ |
    ⟨dgst, _, rfl, ⟨err, _, rfl, rfl, rfl⟩ | ⟨written, _, rfl, rfl, rfl⟩⟩⟩⟩⟩
  · exact .inl ⟨err, rfl, rfl⟩
  · exact .inr (.inl ⟨err, rfl, rfl⟩)
  · exact .inr (.inr (.inl ⟨env, spec, err, rfl, rfl⟩))
  · exact .inr (.inr (.inr (.inl ⟨env, spec, version, err, rfl, rfl⟩)))
  · exact .inr (.inr (.inr (.inr ⟨env, spec, version, dgst, .error err, rfl, rfl⟩)))
  · exact .inr (.inr (.inr (.inr ⟨env, spec, version, dgst, .ok written, rfl, rfl⟩)))

end initializeAction

def newInitializeAction : Action :=
  ⟨"initialize", initializeAction.canHandle, initializeAction.handle⟩

end CamelK
