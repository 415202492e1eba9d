import CamelK.ClusterStore

/-!
# Client programs, their paths and their runs

An action is a program over the calls of `Call`: it makes a call, continues
with the answer, and eventually returns.  `Path` relates a program to the calls
it makes and the value it returns under any answers at all; `Responses` says
which answers a store may give to a sequence of calls, and which store they
leave.  A pass run alone against the store is a path whose calls the store
answers.  `Interleaved` lets other clients write between any two calls, and
records their writes in the run.
-/

namespace CamelK

/-- A program that makes calls and returns an `α`. -/
inductive Prog (α : Type) where
  | done : α → Prog α
  | call (call : Call) (next : Except Error call.Out → Prog α) : Prog α

/-- A call made and the answer it received. -/
abbrev Event : Type :=
  (call : Call) × Except Error call.Out

/-- The failure an event reports, if the call failed. -/
def Event.error? (event : Event) : Option Error :=
  match event.2 with
  | .error err => some err
  | .ok _ => none

namespace Prog

variable {α β : Type}

def bind : Prog α → (α → Prog β) → Prog β
  | done value, resume => resume value
  | call request next, resume => call request fun answer => bind (next answer) resume

instance : Monad Prog where
  pure := done
  bind := bind

@[simp]
theorem pure_eq (value : α) : (pure value : Prog α) = done value :=
  rfl

@[simp]
theorem bind_eq (program : Prog α) (resume : α → Prog β) :
    program >>= resume = program.bind resume :=
  rfl

@[simp]
theorem done_bind (value : α) (resume : α → Prog β) :
    (done value).bind resume = resume value :=
  rfl

@[simp]
theorem call_bind (request : Call) (next : Except Error request.Out → Prog α)
    (resume : α → Prog β) :
    (call request next).bind resume =
      call request fun answer => (next answer).bind resume :=
  rfl

/-! ## Paths under any answers -/

/-- `Path program events value`: with the answers in `events`, `program` makes
exactly the calls in `events`, in order, and returns `value`. -/
inductive Path : Prog α → List Event → α → Prop
  | done (value : α) : Path (done value) [] value
  | call {request : Call} {next : Except Error request.Out → Prog α}
      {answer : Except Error request.Out} {events : List Event} {value : α} :
      Path (next answer) events value → Path (call request next) (⟨request, answer⟩ :: events) value

@[simp]
theorem path_done {value result : α} {events : List Event} :
    Path (done value) events result ↔ events = [] ∧ result = value := by
  constructor
  · rintro ⟨⟩
    exact ⟨rfl, rfl⟩
  · rintro ⟨rfl, rfl⟩
    exact .done _

@[simp]
theorem path_call {request : Call} {next : Except Error request.Out → Prog α}
    {events : List Event} {value : α} :
    Path (call request next) events value ↔
      ∃ answer rest, events = ⟨request, answer⟩ :: rest ∧ Path (next answer) rest value := by
  constructor
  · rintro ⟨⟩
    exact ⟨_, _, rfl, ‹_›⟩
  · rintro ⟨answer, rest, rfl, following⟩
    exact .call following

/-- Splits an answer into a failure and a success, so that `simp` can take a
path apart call by call. -/
theorem exists_except {ε β : Type} {holds : Except ε β → Prop} :
    (∃ answer, holds answer) ↔ (∃ err, holds (.error err)) ∨ ∃ value, holds (.ok value) := by
  constructor
  · rintro ⟨err | value, held⟩
    · exact .inl ⟨err, held⟩
    · exact .inr ⟨value, held⟩
  · rintro (⟨_, held⟩ | ⟨_, held⟩) <;> exact ⟨_, held⟩

theorem path_bind {program : Prog α} {resume : α → Prog β} {events : List Event}
    {result : β} :
    Path (program.bind resume) events result ↔
      ∃ first value second, events = first ++ second ∧ Path program first value ∧
        Path (resume value) second result := by
  induction program generalizing events with
  | done value =>
      simp only [done_bind, path_done]
      constructor
      · exact fun following => ⟨[], value, events, rfl, ⟨rfl, rfl⟩, following⟩
      · rintro ⟨_, _, second, rfl, ⟨rfl, rfl⟩, following⟩
        exact following
  | call request next ih =>
      simp only [call_bind, path_call, ih]
      constructor
      · rintro ⟨answer, rest, rfl, first, value, second, rfl, head, tail⟩
        exact ⟨_, value, second, rfl, ⟨answer, first, rfl, head⟩, tail⟩
      · rintro ⟨_, value, second, rfl, ⟨answer, first, rfl, head⟩, tail⟩
        exact ⟨answer, first ++ second, rfl, first, value, second, rfl, head, tail⟩

end Prog

/-! ## Answers from the store -/

/-- `Responses store events final`: starting from `store`, the store gives the
answers recorded in `events`, one call after the other, and ends as `final`. -/
inductive Responses : Store → List Event → Store → Prop
  | nil (store : Store) : Responses store [] store
  | cons {store next final : Store} {request : Call} {answer : Except Error request.Out}
      {events : List Event} :
      Responds store request answer next → Responses next events final →
        Responses store (⟨request, answer⟩ :: events) final

@[simp]
theorem responses_nil {store final : Store} : Responses store [] final ↔ final = store := by
  constructor
  · rintro ⟨⟩
    rfl
  · rintro rfl
    exact .nil _

@[simp]
theorem responses_cons {store final : Store} {event : Event} {events : List Event} :
    Responses store (event :: events) final ↔
      ∃ next, Responds store event.1 event.2 next ∧ Responses next events final := by
  constructor
  · rintro ⟨⟩
    exact ⟨_, ‹_›, ‹_›⟩
  · rintro ⟨next, head, tail⟩
    exact .cons head tail

theorem responses_append {store final : Store} {first second : List Event} :
    Responses store (first ++ second) final ↔
      ∃ middle, Responses store first middle ∧ Responses middle second final := by
  induction first generalizing store with
  | nil => simp
  | cons event first ih =>
      simp only [List.cons_append, responses_cons, ih]
      constructor
      · rintro ⟨next, head, middle, tail, rest⟩
        exact ⟨middle, ⟨next, head, tail⟩, rest⟩
      · rintro ⟨middle, ⟨next, head, tail⟩, rest⟩
        exact ⟨next, head, middle, tail, rest⟩

namespace Prog

variable {α : Type}

/-- A pass run alone against the store: the program's calls, answered by the
store, from `store` to `final`. -/
def Exec (program : Prog α) (store : Store) (events : List Event) (value : α)
    (final : Store) : Prop :=
  Path program events value ∧ Responses store events final

/-! ## Interleaved runs -/

/-- One entry of an interleaved run: a call of the pass with the store it was
answered on and the store it left, or a write of another client from one store
to the next. -/
inductive Entry
  | pass (before : Store) (event : Event) (after : Store)
  | foreign (before after : Store)

def Entry.event? : Entry → Option Event
  | .pass _ event _ => some event
  | .foreign _ _ => none

def Entry.before : Entry → Store
  | .pass before _ _ | .foreign before _ => before

def Entry.after : Entry → Store
  | .pass _ _ after | .foreign _ after => after

/-- The calls of the pass in an interleaved run. -/
def events (entries : List Entry) : List Event :=
  entries.filterMap Entry.event?

/-- A run of `program` from `store` in which the writes allowed by `Foreign`
may come before any call, and after the last. -/
inductive Interleaved (Foreign : Store → Store → Prop) :
    Prog α → Store → List Entry → α → Store → Prop
  | done {value : α} {store : Store} : Interleaved Foreign (done value) store [] value store
  | call {store next final : Store} {request : Call}
      {resume : Except Error request.Out → Prog α} {answer : Except Error request.Out}
      {entries : List Entry} {value : α} :
      Responds store request answer next →
        Interleaved Foreign (resume answer) next entries value final →
        Interleaved Foreign (call request resume) store
          (.pass store ⟨request, answer⟩ next :: entries) value final
  | foreign {program : Prog α} {store next final : Store} {entries : List Entry} {value : α} :
      Foreign store next → Interleaved Foreign program next entries value final →
        Interleaved Foreign program store (.foreign store next :: entries) value final

theorem Interleaved.path {Foreign : Store → Store → Prop} {program : Prog α}
    {store final : Store} {entries : List Entry} {value : α}
    (run : Interleaved Foreign program store entries value final) :
    Path program (events entries) value := by
  induction run with
  | done => exact .done _
  | call _ _ ih => exact .call ih
  | foreign _ _ ih => exact ih

end Prog

/-! ## The calls as the actions write them -/

namespace Client

def getKit (name : NamespacedName) : Prog (Except Error IntegrationKit) :=
  .call (.getKit name) .done

/-- `client.Update`; the answer is the resource version the store wrote back. -/
def updateKit (kit : IntegrationKit) : Prog (Except Error Nat) :=
  .call (.updateKit kit) .done

/-- `client.Status().Update`. -/
def updateKitStatus (kit : IntegrationKit) : Prog (Except Error Nat) :=
  .call (.updateKitStatus kit) .done

def getBuild (name : NamespacedName) : Prog (Except Error Build) :=
  .call (.getBuild name) .done

def deleteBuild (build : Build) : Prog (Except Error Unit) :=
  .call (.deleteBuild build) .done

def createBuild (build : Build) : Prog (Except Error Nat) :=
  .call (.createBuild build) .done

def listIntegrations (ns : String) : Prog (Except Error (List Integration)) :=
  .call (.listIntegrations ns) .done

def updateIntegrationStatus (integration : Integration) : Prog (Except Error Nat) :=
  .call (.updateIntegrationStatus integration) .done

end Client

/-- `platform.GetCurrentPlatform`; the platform itself is not modelled. -/
def getCurrentPlatform (ns : String) : Prog (Except Error Unit) :=
  .call (.getCurrentPlatform ns) .done

/-- `trait.Apply` with no build: the environment, and the kit spec as the traits
left it. -/
def traitApply (kit : IntegrationKit) : Prog (Except Error (Environment × IntegrationKitSpec)) :=
  .call (.apply kit) .done

/-- `digest.ComputeForIntegrationKit`. -/
def computeForIntegrationKit (kit : IntegrationKit) : Prog (Except Error String) :=
  .call (.computeDigest kit) .done

/-- An action of the integration kit controller: its name, the phases it
handles, and its handler. -/
structure Action where
  name : String
  canHandle : IntegrationKit → Bool
  handle : IntegrationKit → Prog (Except Error Unit)

end CamelK
