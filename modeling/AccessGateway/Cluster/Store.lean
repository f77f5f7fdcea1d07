import AccessGateway.Cluster.Selector

/-!
# `AccessGateway.Cluster.Store`: objects by namespace and name

A `Store` holds the objects of one section, indexed by namespace and name. Its contents are
replaced as a whole, and of two objects with one key the last stays.

The index is a map in the order of its keys, by namespace and then by name, octet by octet. What is
listed is in this order, whatever order the objects were given in, and a list of one namespace is in
the order of the names.
-/

set_option autoImplicit false

namespace AccessGateway

/-- Where an object is found: its namespace, empty for the whole cluster, and its name. -/
structure ObjectKey where
  «namespace» : String
  name : String
  deriving DecidableEq, Repr

namespace ObjectKey

/-- The parts of a key in order of weight. -/
def parts (key : ObjectKey) : List String := [key.namespace, key.name]

instance : Ord ObjectKey := ⟨compareOn parts⟩

instance : Std.TransOrd ObjectKey := inferInstanceAs (Std.TransCmp (compareOn parts))

instance : Std.LawfulEqOrd ObjectKey where
  eq_of_compare {a b} h := by
    have : a.parts = b.parts := Std.compare_eq_iff_eq.mp h
    cases a; cases b
    simpa [parts] using this

/-- The key under which an object is kept. -/
def ofMetadata (m : Metadata) : ObjectKey := ⟨m.namespace, m.name⟩

end ObjectKey

/-- The objects of one section. A store is synced from its first replacement on, even if that had no
objects. -/
structure Store (α : Type) where
  index : Std.ExtTreeMap ObjectKey α
  synced : Bool

namespace Store

variable {α : Type} [ClusterObject α]

/-- No objects, and not synced. -/
def empty : Store α := ⟨∅, false⟩

instance : Inhabited (Store α) := ⟨empty⟩

/-- Adds an object to an index, under its own key. -/
def insertObject (index : Std.ExtTreeMap ObjectKey α) (object : α) : Std.ExtTreeMap ObjectKey α :=
  index.insert (ObjectKey.ofMetadata (ClusterObject.metadata object)) object

/-- A store of exactly these objects, whatever it held before. -/
def ofList (objects : List α) : Store α := ⟨objects.foldl insertObject ∅, true⟩

/-- The object in a namespace under a name. In the empty namespace only objects without one are
found. -/
def get? (store : Store α) («namespace» name : String) : Option α :=
  store.index[ObjectKey.mk «namespace» name]?

/-- All objects in key order, each key once. -/
def toList (store : Store α) : List α := store.index.toList.map Prod.snd

/-- The number of objects. -/
def size (store : Store α) : Nat := store.index.size

/-- The objects of a namespace, or of all namespaces when it is empty, whose labels meet the
selector, in key order. -/
def list (store : Store α) («namespace» : String) (selector : Selector) : List α :=
  store.toList.filter fun object =>
    let m := ClusterObject.metadata object
    (decide («namespace» = "") || decide (m.namespace = «namespace»)) && selector.accepts m.labels

end Store

end AccessGateway
