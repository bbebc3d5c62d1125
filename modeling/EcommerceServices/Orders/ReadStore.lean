import EcommerceServices.Orders.Events

namespace EcommerceServices
namespace Orders

/-!
# The order read store

`onOrderCreated` builds an `OrderReadModel` with `NewOrderReadModel` and hands
it to `OrderReadRepository.CreateOrder`.  Neither the constructor nor the Mongo
repository is among the sources.  The constructor is modelled from the spec as
a document that keeps the values it is built from.  The repository is a
parameter: any `CreateOrder` that inserts, that is, either appends exactly the
given document or refuses it and writes nothing.  Nothing here lets it replace
or merge a document, since the projection calls an insert, not an upsert.

Two such collections are given as instances, both with one unique index: on
the document id, as Mongo's `_id` index, and on the order id, a collection
keyed by aggregate id as the spec describes the read model.
-/

/-- `read_models.ShopItemReadModel`, field for field with the event's item. -/
structure ShopItemReadModel where
  title : String
  description : String
  quantity : UInt64
  price : BitVec 64
  deriving DecidableEq, Repr

/-- The item mapping `onOrderCreated` calls `mapper.Map` with.  Its
registration, `mapper.CreateMap` from the event's items to read-model items,
is not among the sources; it stands for the mapper's copy of each field by
name, the two structures having the same fields. -/
def ShopItem.toReadModel (item : ShopItem) : ShopItemReadModel :=
  ⟨item.title, item.description, item.quantity, item.price⟩

/-- `read_models.OrderReadModel`, by the values `NewOrderReadModel` receives. -/
structure OrderReadModel where
  id : UUID
  orderId : UUID
  shopItems : List ShopItemReadModel
  accountEmail : String
  deliveryAddress : String
  deliveredTime : Int
  deriving DecidableEq, Repr

/-- Modelled from the spec: `read_models.NewOrderReadModel` is not in the
sources.  A read model is a denormalized document of one order: it keeps the
document id and the order's values as given. -/
def newOrderReadModel (id orderId : UUID) (shopItems : List ShopItemReadModel)
    (accountEmail deliveryAddress : String) (deliveredTime : Int) : OrderReadModel :=
  ⟨id, orderId, shopItems, accountEmail, deliveryAddress, deliveredTime⟩

/-- `repositories.OrderReadRepository`, by the one method the projection calls,
acting on the collection's documents.  Its proof field is the insert contract:
a successful `CreateOrder` leaves exactly the old documents followed by the
given one, and a failed one returns no collection, so nothing was written. -/
structure OrderReadRepository where
  createOrder : List OrderReadModel -> OrderReadModel -> Except GoError (List OrderReadModel)
  createOrder_appends : forall documents order stored,
    createOrder documents order = .ok stored -> stored = documents ++ [order]

/-- Modelled from the spec: the Mongo repository is not in the sources.  A
collection with one unique index refuses a document whose key is stored
already and appends any other. -/
def uniqueIndex (key : OrderReadModel -> UUID) : OrderReadRepository where
  createOrder documents order :=
    if documents.any (fun stored => key stored == key order) then
      .error ⟨"E11000 duplicate key error"⟩
    else
      .ok (documents ++ [order])
  createOrder_appends documents order stored inserted := by
    by_cases taken : documents.any (fun stored => key stored == key order) <;>
      simp_all

end Orders
end EcommerceServices
