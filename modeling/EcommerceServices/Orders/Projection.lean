import EcommerceServices.Orders.ReadStore

namespace EcommerceServices
namespace Orders

/-!
# The Mongo order projection

`ProcessEvent` switches on the dynamic type of the envelope's event.  An
`OrderCreatedEventV1` goes to `onOrderCreated`; every other type is ignored
and the call returns nil.  `onOrderCreated` maps the event's items, builds a
read model under a fresh `uuid.NewV4()` id, and inserts it with `CreateOrder`.

The projection's effects are passed explicitly.  A `World` holds the read
collection and the number of ids drawn so far; the projection record holds the
repository, the registered item mapping, and the id source, of which the
`n`-th draw is `newV4 n`.  The ids are random in the code, so nothing below
fixes the source: every result holds for all of them.

The inversion lemma `onOrderCreated_cases` states everything one creation
event can do.  The step lemmas after it, which later proofs cite, are derived
from it and never unfold the handler again.
-/

/-- What one delivery can change: the read collection's documents, and how
many values `uuid.NewV4` has returned so far. -/
structure World where
  store : List OrderReadModel
  draws : Nat
  deriving DecidableEq, Repr

/-- `mongoOrderProjection` with the process-wide collaborators it calls: the
`mapper` registry, here the one mapping it uses, and the id source.  The Kafka
producer is left out, as no path of the projection uses it. -/
structure MongoOrderProjection where
  mongoOrderRepository : OrderReadRepository
  mapShopItems : List ShopItem -> Except GoError (List ShopItemReadModel)
  newV4 : Nat -> UUID

/-- A projection over a collection with one unique index on `key`, the
field-copy item mapping, and ids drawn as `0, 1, ...`: the collaborators of
the concrete runs. -/
def uniqueIndexProjection (key : OrderReadModel -> UUID) : MongoOrderProjection :=
  ⟨uniqueIndex key, fun items => .ok (items.map ShopItem.toReadModel),
    fun draw => ⟨BitVec.ofNat 128 draw⟩⟩

/-- The envelope of order 7's creation event, at stream position 1. -/
def orderSevenCreated : StreamEvent :=
  ⟨⟨1⟩, 1, .orderCreatedEventV1 ⟨⟨7⟩, [], "", "", 0⟩⟩

namespace MongoOrderProjection

variable (m : MongoOrderProjection)

/-- The read model `onOrderCreated` builds from the mapped items, under the
id that the next call of `uuid.NewV4` returns. -/
def orderRead (world : World) (evt : OrderCreatedEventV1) (items : List ShopItemReadModel) :
    OrderReadModel :=
  newOrderReadModel (m.newV4 world.draws) evt.orderId items
    evt.accountEmail evt.deliveryAddress evt.deliveredTime

/-- `onOrderCreated`.  The id is drawn only once the items are mapped; a
failed insert has drawn it, but leaves the documents as they were. -/
def onOrderCreated (world : World) (evt : OrderCreatedEventV1) : World × Option GoError :=
  match m.mapShopItems evt.shopItems with
  | .error err =>
      (world, some (err.wrapIf
        "[mongoOrderProjection_onOrderCreated.Map] error in mapping shopItems"))
  | .ok items =>
      let drawn := { world with draws := world.draws + 1 }
      match m.mongoOrderRepository.createOrder world.store (m.orderRead world evt items) with
      | .error err =>
          (drawn, some (err.wrapIf
            "[mongoOrderProjection_onOrderCreated.CreateOrder] error in creating order with mongoOrderRepository"))
      | .ok store => ({ drawn with store := store }, none)

/-- `ProcessEvent`: the type switch.  Unrecognised event types return nil. -/
def processEvent (world : World) (streamEvent : StreamEvent) : World × Option GoError :=
  match streamEvent.event with
  | .orderCreatedEventV1 evt => m.onOrderCreated world evt
  | .other _ => (world, none)

/-! ## What one delivery does -/

/-- Everything one creation event can do from the world `before`, with the
world and result it leaves.  Its items fail to map: nothing changes, and the
mapping's error is returned under the handler's annotation.  Or the repository
refuses the read model built under the next drawn id: the id is drawn, the
documents are unchanged, and the repository's error is returned under the
handler's annotation.  Or the repository appends that read model, and nil is
returned. -/
def CreationOutcome (before : World) (evt : OrderCreatedEventV1)
    (outcome : World × Option GoError) : Prop :=
  (exists err, m.mapShopItems evt.shopItems = .error err ∧
    outcome = (before, some (err.wrapIf
      "[mongoOrderProjection_onOrderCreated.Map] error in mapping shopItems"))) ∨
  (exists items err, m.mapShopItems evt.shopItems = .ok items ∧
    m.mongoOrderRepository.createOrder before.store (m.orderRead before evt items) = .error err ∧
    outcome = ({ before with draws := before.draws + 1 }, some (err.wrapIf
      "[mongoOrderProjection_onOrderCreated.CreateOrder] error in creating order with mongoOrderRepository"))) ∨
  (exists items, m.mapShopItems evt.shopItems = .ok items ∧
    m.mongoOrderRepository.createOrder before.store (m.orderRead before evt items) =
      .ok (before.store ++ [m.orderRead before evt items]) ∧
    outcome = (⟨before.store ++ [m.orderRead before evt items], before.draws + 1⟩, none))

/-- `onOrderCreated` does one of the three things a creation event can do. -/
theorem onOrderCreated_cases (world : World) (evt : OrderCreatedEventV1) :
    m.CreationOutcome world evt (m.onOrderCreated world evt) := by
  unfold onOrderCreated
  cases mapped : m.mapShopItems evt.shopItems with
  | error err => exact .inl ⟨err, mapped, rfl⟩
  | ok items =>
      dsimp only
      cases inserted : m.mongoOrderRepository.createOrder world.store (m.orderRead world evt items) with
      | error err => exact .inr (.inl ⟨items, err, mapped, inserted, rfl⟩)
      | ok store =>
          obtain rfl := m.mongoOrderRepository.createOrder_appends _ _ _ inserted
          exact .inr (.inr ⟨items, mapped, inserted, rfl⟩)

/-- An envelope the type switch does not select changes nothing. -/
theorem processEvent_ignored (world : World) (streamEvent : StreamEvent)
    (ignored : streamEvent.isOrderCreated = false) :
    m.processEvent world streamEvent = (world, none) := by
  rcases streamEvent with ⟨eventID, position, evt | typeName⟩
  · cases ignored
  · rfl

/-- One delivery only appends: it keeps every document, and adds one, for the
envelope's order, exactly when the envelope is a creation event and the call
returned nil. -/
theorem processEvent_appends (world : World) (streamEvent : StreamEvent) :
    exists added, (m.processEvent world streamEvent).1.store = world.store ++ added ∧
      added.map OrderReadModel.orderId =
        if (m.processEvent world streamEvent).2 = none then streamEvent.createdOrderId.toList
        else [] := by
  rcases streamEvent with ⟨eventID, position, evt | typeName⟩
  · rcases m.onOrderCreated_cases world evt with
      ⟨err, -, called⟩ | ⟨items, err, -, -, called⟩ | ⟨items, -, -, called⟩
    · exact ⟨[], by simp [processEvent, called]⟩
    · exact ⟨[], by simp [processEvent, called]⟩
    · exact ⟨[m.orderRead world evt items], by simp [processEvent, called, orderRead, newOrderReadModel]⟩
  · exact ⟨[], by simp [processEvent]⟩

end MongoOrderProjection

end Orders
end EcommerceServices
