/-!
# Components

The services of a deployment that are polled, each by the name under which a catalog lists it and by
the name of its project, which is the namespace of its metrics.
-/

namespace StackWatch

/-- A polled service. -/
inductive Component where
  | identity
  | compute
  | network
  | blockStorage
  | baremetal
  | loadBalancer
  deriving DecidableEq, Inhabited

namespace Component

/-- Every component, in the order in which a run polls them. -/
def all : List Component := [identity, compute, network, blockStorage, baremetal, loadBalancer]

/-- The type that a catalog entry of the component carries. -/
def name : Component → String
  | identity => "identity"
  | compute => "compute"
  | network => "network"
  | blockStorage => "block-storage"
  | baremetal => "baremetal"
  | loadBalancer => "load-balancer"

/-- The project that implements the component, which names its metrics. -/
def service : Component → String
  | identity => "keystone"
  | compute => "nova"
  | network => "neutron"
  | blockStorage => "cinder"
  | baremetal => "ironic"
  | loadBalancer => "octavia"

/-- The component of a catalog type. -/
def ofName? (name : String) : Option Component := all.find? fun c => c.name = name

/-- What is said of a name that is no component's. -/
def unknownMessage (name : String) : String := "unknown component type: " ++ name

theorem mem_all (c : Component) : c ∈ all := by cases c <;> decide

theorem name_injective {c d : Component} (h : c.name = d.name) : c = d := by
  cases c <;> cases d <;> first | rfl | (exact absurd h (by decide))

theorem service_injective {c d : Component} (h : c.service = d.service) : c = d := by
  cases c <;> cases d <;> first | rfl | (exact absurd h (by decide))

/-- A name belongs to at most one component, and `ofName?` finds it. -/
theorem ofName?_eq_some_iff {name : String} {c : Component} :
    ofName? name = some c ↔ c.name = name := by
  constructor
  · intro h
    simpa using List.find?_some h
  · rintro rfl
    cases c <;> decide

end Component

/-! ## Tables by component -/

/-- A table with at most one value for each component. -/
def Memo (α : Type) : Type := Component → Option α

namespace Memo

variable {α : Type}

/-- The table without values. -/
def empty : Memo α := fun _ => none

/-- Sets the value of one component. -/
def insert (m : Memo α) (c : Component) (value : α) : Memo α :=
  fun d => if d = c then some value else m d

/-- How many components have a value. -/
def size (m : Memo α) : Nat := (Component.all.filter fun c => (m c).isSome).length

@[simp] theorem empty_apply (c : Component) : (empty : Memo α) c = none := rfl

@[simp] theorem insert_self (m : Memo α) (c : Component) (value : α) :
    m.insert c value c = some value := by simp [insert]

theorem insert_of_ne (m : Memo α) {c d : Component} (value : α) (h : d ≠ c) :
    m.insert c value d = m d := by simp [insert, h]

@[simp] theorem size_empty : (empty : Memo α).size = 0 := by simp [size, Component.all]

end Memo

end StackWatch
