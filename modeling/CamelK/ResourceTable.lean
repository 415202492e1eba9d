import CamelK.ApiTypes
import Mathlib.Data.List.Nodup

/-!
# Resource tables

The store keeps, for each resource kind, the objects of that kind, at most one
under each namespaced name; a `List` of namespaced objects is the table read in
storage order.  Writes replace the object under a name, remove it, or add one
under a fresh name, and never change which names are held, so the uniqueness
of names travels with the table.
-/

namespace CamelK

/-- A resource kind the store can hold: its objects carry object metadata, and
the API server names the kind, qualified by its API group, in its errors. -/
class Resource (α : Type) where
  resource : String
  metadata : α → ObjectMeta
  withMetadata : α → ObjectMeta → α
  metadata_withMetadata : ∀ object meta, metadata (withMetadata object meta) = meta

namespace Resource

variable {α : Type} [Resource α]

def key (object : α) : NamespacedName :=
  (metadata object).namespacedName

def resourceVersion (object : α) : Nat :=
  (metadata object).resourceVersion

/-- The store writing a new resource version back into an object. -/
def withResourceVersion (object : α) (version : Nat) : α :=
  withMetadata object { metadata object with resourceVersion := version }

@[simp]
theorem key_withResourceVersion (object : α) (version : Nat) :
    key (withResourceVersion object version) = key object := by
  simp [key, withResourceVersion, metadata_withMetadata, ObjectMeta.namespacedName]

@[simp]
theorem resourceVersion_withResourceVersion (object : α) (version : Nat) :
    resourceVersion (withResourceVersion object version) = version := by
  simp [resourceVersion, withResourceVersion, metadata_withMetadata]

end Resource

instance : Resource IntegrationKit where
  resource := "integrationkits.camel.apache.org"
  metadata kit := kit.metadata
  withMetadata kit meta := { kit with metadata := meta }
  metadata_withMetadata _ _ := rfl

instance : Resource Build where
  resource := "builds.camel.apache.org"
  metadata build := build.metadata
  withMetadata build meta := { build with metadata := meta }
  metadata_withMetadata _ _ := rfl

instance : Resource Integration where
  resource := "integrations.camel.apache.org"
  metadata integration := integration.metadata
  withMetadata integration meta := { integration with metadata := meta }
  metadata_withMetadata _ _ := rfl

open Resource

/-- The objects of one kind, at most one under each namespaced name. -/
structure Table (α : Type) [Resource α] where
  items : List α
  nodup : (items.map key).Nodup

namespace Table

variable {α : Type} [Resource α]

def get (table : Table α) (name : NamespacedName) : Option α :=
  table.items.find? (key · = name)

/-- A namespace-scoped list, in storage order. -/
def list (table : Table α) (ns : String) : List α :=
  table.items.filter fun object => (metadata object).namespace = ns

/-- The object in place of `f object` when `f` keeps names. -/
def replace (object : α) (current : α) : α :=
  if key current = key object then object else current

@[simp]
theorem key_replace (object current : α) : key (replace object current) = key current := by
  unfold replace
  split <;> simp_all

/-- Replace the object held under the name of `object` by `object`. -/
def set (table : Table α) (object : α) : Table α where
  items := table.items.map (replace object)
  nodup := by simpa [Function.comp_def] using table.nodup

/-- Remove the object held under a name. -/
def erase (table : Table α) (name : NamespacedName) : Table α where
  items := table.items.filter (key · ≠ name)
  nodup := (table.nodup.sublist ((List.filter_sublist _).map key))

/-- Add an object under a name the table does not hold; a held name leaves the
table as it is. -/
def insert (table : Table α) (object : α) : Table α :=
  if absent : (table.get (key object)).isNone then
    { items := table.items ++ [object]
      nodup := by
        rw [List.map_append, List.nodup_append]
        refine ⟨table.nodup, List.nodup_singleton _, ?_⟩
        simp only [get, Option.isNone_iff_eq_none, List.find?_eq_none,
          decide_eq_true_eq] at absent
        intro name held added
        obtain ⟨current, currentMem, rfl⟩ := List.mem_map.mp held
        exact absent current currentMem (List.mem_singleton.mp added) }
  else table

theorem key_of_get {table : Table α} {name : NamespacedName} {object : α}
    (found : table.get name = some object) : key object = name := by
  simpa using List.find?_some found

theorem mem_of_get {table : Table α} {name : NamespacedName} {object : α}
    (found : table.get name = some object) : object ∈ table.items :=
  List.mem_of_find?_eq_some found

/-- A held object is found under its own name: names are unique in a table. -/
theorem get_of_mem {table : Table α} {object : α} (mem : object ∈ table.items) :
    table.get (key object) = some object := by
  have present : (table.get (key object)).isSome :=
    List.find?_isSome.mpr ⟨object, mem, decide_eq_true rfl⟩
  obtain ⟨found, foundSome⟩ := Option.isSome_iff_exists.mp present
  rw [foundSome,
    List.inj_on_of_nodup_map table.nodup (mem_of_get foundSome) mem (key_of_get foundSome)]

theorem get_set (table : Table α) (object : α) (name : NamespacedName) :
    (table.set object).get name = (table.get name).map (replace object) := by
  simp only [get, set, List.find?_map]
  congr 2
  funext current
  simp

theorem get_set_self {table : Table α} {object current : α}
    (found : table.get (key object) = some current) :
    (table.set object).get (key object) = some object := by
  simp [get_set, found, replace, key_of_get found]

theorem get_set_of_ne (table : Table α) {object : α} {name : NamespacedName}
    (other : name ≠ key object) : (table.set object).get name = table.get name := by
  rw [get_set]
  cases found : table.get name with
  | none => rfl
  | some current =>
      simp only [Option.map_some', replace, key_of_get found, if_neg other]

/-- `set` as seen through `get`: the name written now holds the object, every
other name what it held. -/
theorem get_set_eq (table : Table α) (object : α) (name : NamespacedName) :
    (table.set object).get name =
      if key object = name then (table.get name).map fun _ => object else table.get name := by
  split
  · rename_i same
    subst same
    cases found : table.get (key object) with
    | none => simp [get_set, found]
    | some current => simp [get_set_self found]
  · exact get_set_of_ne table (Ne.symm ‹_›)

theorem get_erase (table : Table α) (erased name : NamespacedName) :
    (table.erase erased).get name = if name = erased then none else table.get name := by
  simp only [get, erase, List.find?_filter]
  split
  · subst name
    simp
  · congr 1
    funext current
    by_cases same : key current = name <;> simp_all

theorem get_insert (table : Table α) (object : α) (absent : table.get (key object) = none)
    (name : NamespacedName) :
    (table.insert object).get name =
      if name = key object then some object else table.get name := by
  simp only [insert, dif_pos (Option.isNone_iff_eq_none.mpr absent)]
  simp only [get, List.find?_append]
  split
  · subst name
    simp only [get] at absent
    simp [absent]
  · rename_i other
    have other' : key object ≠ name := fun same => other same.symm
    cases table.items.find? (key · = name) <;> simp [other']

/-- Every object held carries a resource version at most `bound`. -/
def VersionsBelow (table : Table α) (bound : Nat) : Prop :=
  ∀ object ∈ table.items, resourceVersion object ≤ bound

theorem VersionsBelow.mono {table : Table α} {low high : Nat}
    (below : table.VersionsBelow low) (le : low ≤ high) : table.VersionsBelow high :=
  fun object held => (below object held).trans le

theorem VersionsBelow.set {table : Table α} {bound : Nat} {object : α}
    (below : table.VersionsBelow bound) (objectBelow : resourceVersion object ≤ bound) :
    (table.set object).VersionsBelow bound := by
  intro held heldMem
  obtain ⟨current, currentMem, rfl⟩ := List.mem_map.mp heldMem
  unfold replace
  split
  · exact objectBelow
  · exact below current currentMem

theorem VersionsBelow.erase {table : Table α} {bound : Nat}
    (below : table.VersionsBelow bound) (name : NamespacedName) :
    (table.erase name).VersionsBelow bound :=
  fun held heldMem => below held (List.mem_of_mem_filter heldMem)

theorem VersionsBelow.insert {table : Table α} {bound : Nat} {object : α}
    (below : table.VersionsBelow bound) (objectBelow : resourceVersion object ≤ bound) :
    (table.insert object).VersionsBelow bound := by
  unfold Table.insert
  split
  · intro held heldMem
    rcases List.mem_append.mp heldMem with old | new
    · exact below held old
    · rw [List.mem_singleton.mp new]
      exact objectBelow
  · exact below

/-- What writing an object under the next revision keeps of the bound. -/
theorem VersionsBelow.stamp {table : Table α} {bound : Nat}
    (below : table.VersionsBelow bound) (object : α) :
    (table.set (withResourceVersion object (bound + 1))).VersionsBelow (bound + 1) :=
  (below.mono (Nat.le_succ bound)).set (by simp)

end Table

end CamelK
