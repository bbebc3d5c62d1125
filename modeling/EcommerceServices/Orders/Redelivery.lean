import EcommerceServices.Orders.Projection

namespace EcommerceServices
namespace Orders

/-!
# Delivery sequences and redelivered envelopes

The subscription hands envelopes to the projection at least once: after a
crash it may deliver an envelope it delivered before.  Here a whole delivery
sequence is folded through `ProcessEvent`, keeping what each call returned.

`ProcessEvent` never consults the envelope's message id or stream position,
and `onOrderCreated` inserts under a fresh id rather than upserting.  So a
redelivered creation event is processed like a first one: it fails, or it
adds another document for the same order.  `not_redeliveryIdempotent` shows
that no choice of repository, item mapping or id source makes the fold
idempotent under redelivery.  What does hold is `processEvents_redeliveries`.
A run returns one result per delivery.  Ignored envelopes change nothing
however often they arrive.  Every creation delivery, first delivery or
redelivery, does from the world the earlier deliveries left one of the three
things of `CreationOutcome`: it returns the wrapped mapping error, or the
repository's refusal wrapped, or it adds one more read model and returns nil.
And the documents gained are exactly one per creation delivery that returned
nil.
-/

/-- The orders that the deliveries returning nil created, in delivery order,
from the deliveries paired with what they returned. -/
def createdOrders : List (StreamEvent × Option GoError) -> List UUID
  | [] => []
  | (streamEvent, result) :: outcomes =>
      (if result = none then streamEvent.createdOrderId.toList else []) ++ createdOrders outcomes

@[simp] theorem createdOrders_cons (streamEvent : StreamEvent) (result : Option GoError)
    (outcomes : List (StreamEvent × Option GoError)) :
    createdOrders ((streamEvent, result) :: outcomes) =
      (if result = none then streamEvent.createdOrderId.toList else []) ++
        createdOrders outcomes := rfl

namespace MongoOrderProjection

variable (m : MongoOrderProjection)

/-- Fold `ProcessEvent` over a delivery sequence, keeping what each delivery
returned, in delivery order. -/
def processEvents : World -> List StreamEvent -> World × List (Option GoError)
  | world, [] => (world, [])
  | world, streamEvent :: deliveries =>
      let delivered := m.processEvent world streamEvent
      let rest := processEvents delivered.1 deliveries
      (rest.1, delivered.2 :: rest.2)

@[simp] theorem processEvents_nil (world : World) : m.processEvents world [] = (world, []) := rfl

@[simp] theorem processEvents_cons (world : World) (streamEvent : StreamEvent)
    (deliveries : List StreamEvent) :
    m.processEvents world (streamEvent :: deliveries) =
      ((m.processEvents (m.processEvent world streamEvent).1 deliveries).1,
        (m.processEvent world streamEvent).2 ::
          (m.processEvents (m.processEvent world streamEvent).1 deliveries).2) := rfl

/-! ## Runs -/

/-- A run returns one result per delivery. -/
@[simp] theorem processEvents_length (world : World) (deliveries : List StreamEvent) :
    (m.processEvents world deliveries).2.length = deliveries.length := by
  induction deliveries generalizing world with
  | nil => rfl
  | cons streamEvent deliveries ih => simp [ih]

/-- A run over `earlier ++ later` is the run over `later` from the world that
`earlier` leaves. -/
theorem processEvents_append (world : World) (earlier later : List StreamEvent) :
    m.processEvents world (earlier ++ later) =
      ((m.processEvents (m.processEvents world earlier).1 later).1,
        (m.processEvents world earlier).2 ++ (m.processEvents (m.processEvents world earlier).1 later).2) := by
  induction earlier generalizing world with
  | nil => rfl
  | cons streamEvent earlier ih => simp [ih]

/-- Wherever a creation delivery stands in a run, first delivery or
redelivery, it does one of the three things of `CreationOutcome` from the
world the deliveries before it leave, and the run goes on from there. -/
theorem processEvents_creation (world : World) (earlier later : List StreamEvent)
    (streamEvent : StreamEvent) (evt : OrderCreatedEventV1)
    (creates : streamEvent.event = .orderCreatedEventV1 evt) :
    exists outcome, m.CreationOutcome (m.processEvents world earlier).1 evt outcome ∧
      m.processEvents world (earlier ++ streamEvent :: later) =
        ((m.processEvents outcome.1 later).1,
          (m.processEvents world earlier).2 ++ outcome.2 :: (m.processEvents outcome.1 later).2) := by
  refine ⟨m.processEvent (m.processEvents world earlier).1 streamEvent, ?_, ?_⟩
  · rcases streamEvent with ⟨eventID, position, event⟩
    subst creates
    exact m.onOrderCreated_cases _ evt
  · rw [processEvents_append, processEvents_cons]

/-- Every delivery of an ignored envelope returns nil. -/
theorem processEvents_ignored_nil (world : World) (deliveries : List StreamEvent) :
    ∀ outcome ∈ deliveries.zip (m.processEvents world deliveries).2,
      outcome.1.isOrderCreated = false -> outcome.2 = none := by
  induction deliveries generalizing world with
  | nil => simp
  | cons streamEvent deliveries ih =>
      intro outcome member ignored
      rcases List.mem_cons.mp member with rfl | later
      · simp [m.processEvent_ignored world _ ignored]
      · exact ih _ outcome later ignored

/-- Ignored envelopes, first deliveries and redeliveries alike, can be taken
out of a sequence without changing the world it leaves. -/
theorem processEvents_filter_ignored (world : World) (deliveries : List StreamEvent) :
    (m.processEvents world deliveries).1 =
      (m.processEvents world (deliveries.filter StreamEvent.isOrderCreated)).1 := by
  induction deliveries generalizing world with
  | nil => rfl
  | cons streamEvent deliveries ih =>
      cases selected : streamEvent.isOrderCreated
      · simp [List.filter_cons, selected, m.processEvent_ignored world streamEvent selected, ih]
      · simp [List.filter_cons, selected, ih]

/-- A run only appends: the documents it adds carry, in order, the orders
created by the deliveries that returned nil. -/
theorem processEvents_appends (world : World) (deliveries : List StreamEvent) :
    exists added, (m.processEvents world deliveries).1.store = world.store ++ added ∧
      added.map OrderReadModel.orderId =
        createdOrders (deliveries.zip (m.processEvents world deliveries).2) := by
  induction deliveries generalizing world with
  | nil => exact ⟨[], by simp, rfl⟩
  | cons streamEvent deliveries ih =>
      obtain ⟨first, firstStore, firstOrders⟩ := m.processEvent_appends world streamEvent
      obtain ⟨rest, restStore, restOrders⟩ := ih (m.processEvent world streamEvent).1
      exact ⟨first ++ rest, by simp [restStore, firstStore],
        by simp only [processEvents_cons, List.zip_cons_cons, createdOrders_cons, List.map_append,
          firstOrders, restOrders]⟩

/-- A creation delivery that returns nil adds a document, whether or not the
envelope was delivered before. -/
theorem processEvent_created_grows (world : World) (streamEvent : StreamEvent)
    (creates : streamEvent.isOrderCreated = true)
    (succeeded : (m.processEvent world streamEvent).2 = none) :
    (m.processEvent world streamEvent).1.store.length = world.store.length + 1 := by
  obtain ⟨added, stored, orders⟩ := m.processEvent_appends world streamEvent
  obtain ⟨orderId, created⟩ := Option.isSome_iff_exists.mp creates
  rw [succeeded, if_pos rfl, created] at orders
  simp [stored, ← List.length_map added OrderReadModel.orderId, orders]

/-! ## The redelivery law -/

/-- The redelivery law asked of the projection: from every world and over
every delivery sequence, each redelivery, an envelope delivered earlier in
the sequence, returns nil, and the store is the one that the sequence leaves
with its redeliveries removed. -/
def RedeliveryIdempotent : Prop :=
  forall (world : World) (deliveries : List StreamEvent),
    (forall (i : Nat) (streamEvent : StreamEvent), deliveries[i]? = some streamEvent ->
      streamEvent ∈ deliveries.take i -> (m.processEvents world deliveries).2[i]? = some none) ∧
    (m.processEvents world deliveries).1.store =
      (m.processEvents world deliveries.eraseDups).1.store

/-- No projection meets the law, whatever its repository, item mapping and id
source.  A creation envelope delivered twice must return nil the second time,
and then its second insert has grown the store past the single delivery's. -/
theorem not_redeliveryIdempotent : ¬ m.RedeliveryIdempotent := by
  intro law
  let created : StreamEvent := ⟨⟨0⟩, 0, .orderCreatedEventV1 ⟨⟨0⟩, [], "", "", 0⟩⟩
  obtain ⟨redeliveredNil, sameStore⟩ := law ⟨[], 0⟩ [created, created]
  have secondNil := redeliveredNil 1 created rfl (by simp)
  have once : [created, created].eraseDups = [created] := by
    simp [List.eraseDups, List.eraseDups.loop]
  simp only [processEvents_cons, processEvents_nil, List.getElem?_cons_succ,
    List.getElem?_cons_zero, Option.some.injEq] at secondNil
  simp only [once, processEvents_cons, processEvents_nil] at sameStore
  have grows := m.processEvent_created_grows _ created rfl secondNil
  rw [sameStore] at grows
  omega

/-- A run that breaks the law: a collection with Mongo's `_id` index, the
field-copy item mapping, and ids drawn as `0, 1, ...`.  Order 7's creation
envelope, delivered twice, returns nil both times and leaves two documents
for order 7. -/
theorem redelivery_counterexample :
    ((uniqueIndexProjection OrderReadModel.id).processEvents ⟨[], 0⟩
        [orderSevenCreated, orderSevenCreated]).2 = [none, none] ∧
      (((uniqueIndexProjection OrderReadModel.id).processEvents ⟨[], 0⟩
        [orderSevenCreated, orderSevenCreated]).1.store.map OrderReadModel.orderId).count ⟨7⟩ = 2 ∧
      ¬ (uniqueIndexProjection OrderReadModel.id).RedeliveryIdempotent :=
  ⟨by decide, by decide, (uniqueIndexProjection OrderReadModel.id).not_redeliveryIdempotent⟩

/-- What any delivery sequence, redeliveries included, does to the read
store.  It returns one result per delivery.  Ignored envelopes return nil,
and dropping them from the sequence changes nothing.  Every creation delivery,
from the world the deliveries before it leave, fails to map with the wrapped
mapping error, or has its read model refused by the repository with the
wrapped refusal, or has it appended and returns nil; the run goes on from
there.  So the store keeps every document it had and gains exactly one per
creation delivery that returned nil, for that delivery's order, in delivery
order. -/
theorem processEvents_redeliveries (world : World) (deliveries : List StreamEvent) :
    (m.processEvents world deliveries).2.length = deliveries.length ∧
    (∀ outcome ∈ deliveries.zip (m.processEvents world deliveries).2,
      outcome.1.isOrderCreated = false -> outcome.2 = none) ∧
    (m.processEvents world deliveries).1 =
      (m.processEvents world (deliveries.filter StreamEvent.isOrderCreated)).1 ∧
    (∀ earlier streamEvent later evt, deliveries = earlier ++ streamEvent :: later ->
      streamEvent.event = .orderCreatedEventV1 evt ->
      exists outcome, m.CreationOutcome (m.processEvents world earlier).1 evt outcome ∧
        m.processEvents world deliveries =
          ((m.processEvents outcome.1 later).1,
            (m.processEvents world earlier).2 ++ outcome.2 :: (m.processEvents outcome.1 later).2)) ∧
    exists added, (m.processEvents world deliveries).1.store = world.store ++ added ∧
      added.map OrderReadModel.orderId =
        createdOrders (deliveries.zip (m.processEvents world deliveries).2) :=
  ⟨m.processEvents_length world deliveries, m.processEvents_ignored_nil world deliveries,
    m.processEvents_filter_ignored world deliveries,
    fun earlier streamEvent later evt split creates => split ▸
      m.processEvents_creation world earlier later streamEvent evt creates,
    m.processEvents_appends world deliveries⟩

end MongoOrderProjection

end Orders
end EcommerceServices
