import AccessGateway.Query.Basic

/-!
# `AccessGateway.Query.Page`: answering a query

`Query.select` keeps the items that satisfy every condition and puts them in order;
`Page.cut` takes one page of a list; `Query.run` does one after the other.

The sort is stable, and a reversed order swaps the comparison and not the result. So items that
compare equal keep the order in which they came, in both directions.
-/

set_option autoImplicit false

namespace AccessGateway

/-- One page of a list, with the number of items before paging. -/
structure Page (α : Type) where
  totalCount : Nat
  items : List α
  deriving DecidableEq, Repr

namespace Page

/-- The items from an offset on, at most `limit` of them unless it is negative. An offset behind the
end leaves nothing. -/
def cut {α : Type} (items : List α) (limit : Int) (offset : Nat) : Page α :=
  let rest := items.drop offset
  ⟨items.length, if limit < 0 then rest else rest.take limit.toNat⟩

/-- Applies a function to the items, and keeps the count. -/
def map {α β : Type} (f : α → β) (page : Page α) : Page β :=
  ⟨page.totalCount, page.items.map f⟩

end Page

namespace Query

variable {α : Type} [Queryable α]

/-- Whether an item satisfies every condition. Without conditions every item does. -/
def admits (q : Query) (item : α) : Bool :=
  q.conditions.toList.all fun (field, condition) => Queryable.satisfies item field condition

/-- Items are compared by the value of a field, absent before any value, and then by name. -/
def compareBy (field : String) (a b : α) : Ordering :=
  (compare (Queryable.field a field) (Queryable.field b field)).then
    (compare (Queryable.name a) (Queryable.name b))

/-- The comparison that a query orders by. The names are reversed with the values. -/
def comparison (q : Query) (a b : α) : Ordering :=
  if q.reverse then (compareBy q.orderBy a b).swap else compareBy q.orderBy a b

/-- The items that satisfy every condition, in order. Items that compare equal keep the order
in which they came. -/
def select (q : Query) (items : List α) : List α :=
  (items.filter q.admits).mergeSort fun a b => (q.comparison a b).isLE

/-- The page of the selected items that a query asks for. -/
def run (q : Query) (items : List α) : Page α := Page.cut (q.select items) q.limit q.offset

end Query

end AccessGateway
