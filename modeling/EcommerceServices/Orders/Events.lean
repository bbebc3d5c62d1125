import EcommerceServices.GoError

namespace EcommerceServices
namespace Orders

/-!
# Events delivered to the order projection

The orders service keeps a Mongo read model of its orders.  It is fed by
`mongoOrderProjection.ProcessEvent`, which receives one `models.StreamEvent`
per delivery from the event-store subscription.  This module fixes the data
that crosses that boundary: the envelope, the dynamic event inside it, and the
fields of `OrderCreatedEventV1` that the projection reads.

Fields that no modelled function reads (the embedded domain-event metadata,
the event's own creation time, the envelope's version) are left out.  The
envelope keeps its message id and stream position: the projection never looks
at them, and that is exactly why it cannot tell a redelivery from a first
delivery.
-/

/-- A `uuid.UUID` of `satori/go.uuid`: sixteen bytes. -/
structure UUID where
  bytes : BitVec 128
  deriving DecidableEq, Repr

/-- One line of an order as the creation event carries it.  The price is a
`float64` kept as its bit pattern: it is only ever copied. -/
structure ShopItem where
  title : String
  description : String
  quantity : UInt64
  price : BitVec 64
  deriving DecidableEq, Repr

/-- `OrderCreatedEventV1`, by the fields that `onOrderCreated` reads.  The
delivery time is a `time.Time`, here in Unix nanoseconds. -/
structure OrderCreatedEventV1 where
  orderId : UUID
  shopItems : List ShopItem
  accountEmail : String
  deliveryAddress : String
  deliveredTime : Int
  deriving DecidableEq, Repr

/-- The dynamic type behind a stream event's `Event` field, as the projection's
type switch distinguishes it: the creation event, or a value of any other
event type, named by that type. -/
inductive DomainEvent where
  | orderCreatedEventV1 (evt : OrderCreatedEventV1)
  | other (typeName : String)
  deriving DecidableEq, Repr

/-- `models.StreamEvent`: a delivered envelope.  A redelivery hands the same
envelope, message id and stream position included, to the projection again. -/
structure StreamEvent where
  eventID : UUID
  position : Int
  event : DomainEvent
  deriving DecidableEq, Repr

namespace StreamEvent

/-- The order an envelope creates, when its event is an `OrderCreatedEventV1`. -/
def createdOrderId (streamEvent : StreamEvent) : Option UUID :=
  match streamEvent.event with
  | .orderCreatedEventV1 evt => some evt.orderId
  | .other _ => none

/-- Whether the projection's type switch selects a handler for the envelope. -/
def isOrderCreated (streamEvent : StreamEvent) : Bool :=
  streamEvent.createdOrderId.isSome

@[simp] theorem createdOrderId_orderCreated (eventID : UUID) (position : Int)
    (evt : OrderCreatedEventV1) :
    createdOrderId ⟨eventID, position, .orderCreatedEventV1 evt⟩ = some evt.orderId := rfl

@[simp] theorem createdOrderId_other (eventID : UUID) (position : Int) (typeName : String) :
    createdOrderId ⟨eventID, position, .other typeName⟩ = none := rfl

end StreamEvent

end Orders
end EcommerceServices
