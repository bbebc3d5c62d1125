import EcommerceServices.Orders.Redelivery

namespace EcommerceServices
namespace Orders

/-!
# Redelivery against collections with one unique index

`uniqueIndex` refuses only a document whose key is stored already.  The two
keys a read collection of orders can have give the two ways redelivery shows.

Under Mongo's default index the key is the document id, and `onOrderCreated`
draws that id afresh for every delivery.  So while the id source does not
repeat itself, the insert never fails.  With the item mapping registered,
every delivery returns nil, and a creation envelope delivered `k` times leaves
`k` documents for its order.  The invariant is `IdsDrawn`: every stored id was
returned by an earlier draw.  Freshness is assumed only for the draws a run
can reach, since a 128-bit source cannot be injective on all of `Nat`.

Under a collection keyed by order id, as the spec describes the read model,
the store never holds two documents of one order.  But the projection does
not look before it inserts, so a redelivered creation event of a stored order
returns the collection's duplicate-key error instead of nil, and the
consumer sees a failure for an event that was applied.
-/

namespace MongoOrderProjection

variable (m : MongoOrderProjection)

/-! ## Mongo's `_id` index -/

/-- Every stored document carries an id that the source returned at an
earlier draw. -/
def IdsDrawn (world : World) : Prop :=
  ∀ document ∈ world.store, exists draw, draw < world.draws ∧ document.id = m.newV4 draw

/-- The id source returns no value twice among its first `bound` draws. -/
def FreshBelow (bound : Nat) : Prop :=
  forall earlier later, earlier < later -> later < bound -> m.newV4 earlier ≠ m.newV4 later

theorem idsDrawn_of_le {world : World} (drawn : m.IdsDrawn world) (draws : Nat)
    (later : world.draws ≤ draws) : m.IdsDrawn ⟨world.store, draws⟩ := by
  intro document member
  obtain ⟨draw, before, named⟩ := drawn document member
  exact ⟨draw, Nat.lt_of_lt_of_le before later, named⟩

theorem freshBelow_of_le {bound : Nat} (fresh : m.FreshBelow bound) (smaller : Nat)
    (within : smaller ≤ bound) : m.FreshBelow smaller :=
  fun earlier later ordered below => fresh earlier later ordered (by omega)

/-- One delivery keeps every stored id drawn, and draws at most one id. -/
theorem processEvent_idsDrawn (world : World) (streamEvent : StreamEvent)
    (drawn : m.IdsDrawn world) :
    m.IdsDrawn (m.processEvent world streamEvent).1 ∧
      (m.processEvent world streamEvent).1.draws ≤ world.draws + 1 := by
  rcases streamEvent with ⟨eventID, position, evt | typeName⟩
  · rcases m.onOrderCreated_cases world evt with
      ⟨err, -, called⟩ | ⟨items, err, -, -, called⟩ | ⟨items, -, -, called⟩ <;>
      simp only [processEvent, called]
    · exact ⟨drawn, by omega⟩
    · exact ⟨m.idsDrawn_of_le drawn _ (by omega), Nat.le_refl _⟩
    · refine ⟨fun document member => ?_, Nat.le_refl _⟩
      rcases List.mem_append.mp member with stored | inserted
      · exact m.idsDrawn_of_le drawn (world.draws + 1) (by omega) document stored
      · rw [List.mem_singleton.mp inserted]
        exact ⟨world.draws, Nat.lt_succ_self _, rfl⟩
  · exact ⟨drawn, by simp [processEvent]⟩

/-- The `_id` collection accepts a document whose id no stored document has. -/
theorem uniqueIndex_id_accepts (documents : List OrderReadModel) (order : OrderReadModel)
    (unused : ∀ document ∈ documents, document.id ≠ order.id) :
    (uniqueIndex OrderReadModel.id).createOrder documents order = .ok (documents ++ [order]) := by
  simpa [uniqueIndex] using unused

/-- Under the `_id` index, a creation event whose items map and whose drawn
id is new to the store is inserted, and the call returns nil. -/
theorem onOrderCreated_fresh (mongo : m.mongoOrderRepository = uniqueIndex OrderReadModel.id)
    (world : World) (evt : OrderCreatedEventV1) (items : List ShopItemReadModel)
    (mapped : m.mapShopItems evt.shopItems = .ok items)
    (unused : ∀ document ∈ world.store, document.id ≠ m.newV4 world.draws) :
    m.onOrderCreated world evt =
      (⟨world.store ++ [m.orderRead world evt items], world.draws + 1⟩, none) := by
  rcases m.onOrderCreated_cases world evt with
    ⟨err, failed, -⟩ | ⟨read, err, same, refused, -⟩ | ⟨read, same, -, called⟩
  · cases mapped.symm.trans failed
  · obtain rfl := Except.ok.inj (mapped.symm.trans same)
    rw [mongo, uniqueIndex_id_accepts _ _ unused] at refused
    cases refused
  · obtain rfl := Except.ok.inj (mapped.symm.trans same)
    exact called

/-- Under the `_id` index, with the item mapping registered and the next draw
fresh against the stored ids, a delivery returns nil. -/
theorem processEvent_fresh_nil (mongo : m.mongoOrderRepository = uniqueIndex OrderReadModel.id)
    (registered : ∀ items, exists read, m.mapShopItems items = .ok read)
    (world : World) (streamEvent : StreamEvent) (drawn : m.IdsDrawn world)
    (fresh : m.FreshBelow (world.draws + 1)) :
    (m.processEvent world streamEvent).2 = none := by
  rcases streamEvent with ⟨eventID, position, evt | typeName⟩
  · obtain ⟨items, mapped⟩ := registered evt.shopItems
    have unused : ∀ document ∈ world.store, document.id ≠ m.newV4 world.draws := by
      intro document member
      obtain ⟨draw, before, named⟩ := drawn document member
      rw [named]
      exact fresh draw world.draws before (Nat.lt_succ_self _)
    simp [processEvent, m.onOrderCreated_fresh mongo world evt items mapped unused]
  · rfl

/-- Deliveries that all returned nil created the orders of their creation
events, in order. -/
theorem createdOrders_all_nil (deliveries : List StreamEvent) :
    createdOrders (deliveries.zip (deliveries.map fun _ => none)) =
      deliveries.filterMap StreamEvent.createdOrderId := by
  induction deliveries with
  | nil => rfl
  | cons streamEvent deliveries ih =>
      cases created : streamEvent.createdOrderId <;>
        simp only [List.map_cons, List.zip_cons_cons, createdOrders_cons, ih, List.filterMap_cons,
          created, if_pos, Option.toList_none, Option.toList_some, List.nil_append,
          List.singleton_append]

/-- A run under the `_id` index, with the item mapping registered, from a
world whose stored ids were all drawn, and with an id source fresh over the
run's draws: every delivery returns nil, and the store gains one document per
creation delivery, first deliveries and redeliveries alike, for its order. -/
theorem processEvents_mongoDuplicates (world : World) (deliveries : List StreamEvent)
    (mongo : m.mongoOrderRepository = uniqueIndex OrderReadModel.id)
    (registered : ∀ items, exists read, m.mapShopItems items = .ok read)
    (fresh : m.FreshBelow (world.draws + deliveries.length))
    (drawn : m.IdsDrawn world) :
    (m.processEvents world deliveries).2 = deliveries.map (fun _ => none) ∧
      (m.processEvents world deliveries).1.store.map OrderReadModel.orderId =
        world.store.map OrderReadModel.orderId ++
          deliveries.filterMap StreamEvent.createdOrderId := by
  have allNil : (m.processEvents world deliveries).2 = deliveries.map (fun _ => none) := by
    induction deliveries generalizing world with
    | nil => rfl
    | cons streamEvent deliveries ih =>
        simp only [List.length_cons] at fresh
        obtain ⟨drawnNext, fewer⟩ := m.processEvent_idsDrawn world streamEvent drawn
        have first := m.processEvent_fresh_nil mongo registered world streamEvent drawn
          (m.freshBelow_of_le fresh _ (by omega))
        have rest := ih _ (m.freshBelow_of_le fresh _ (by omega)) drawnNext
        simp [first, rest]
  obtain ⟨added, stored, orders⟩ := m.processEvents_appends world deliveries
  rw [allNil, createdOrders_all_nil] at orders
  exact ⟨allNil, by rw [stored, List.map_append, orders]⟩

/-- Order 7's creation envelope, delivered twice to the `_id` collection with
ids drawn as `0, 1, ...`, leaves two documents for order 7. -/
theorem processEvents_mongoDuplicates_twice :
    (uniqueIndexProjection OrderReadModel.id).FreshBelow 2 ∧
      ((uniqueIndexProjection OrderReadModel.id).processEvents ⟨[], 0⟩
        [orderSevenCreated, orderSevenCreated]).1.store.map OrderReadModel.orderId =
        [⟨7⟩, ⟨7⟩] := by
  have fresh : (uniqueIndexProjection OrderReadModel.id).FreshBelow 2 := by
    intro earlier later ordered below
    obtain rfl : later = 1 := by omega
    obtain rfl : earlier = 0 := by omega
    decide
  exact ⟨fresh, ((uniqueIndexProjection OrderReadModel.id).processEvents_mongoDuplicates ⟨[], 0⟩
    [orderSevenCreated, orderSevenCreated] rfl (fun items => ⟨_, rfl⟩) fresh
    (by simp [IdsDrawn])).2⟩

/-! ## A collection keyed by order id -/

/-- The order-keyed collection refuses a document for an order it holds. -/
theorem uniqueIndex_orderId_refuses (documents : List OrderReadModel) (order : OrderReadModel)
    (held : order.orderId ∈ documents.map OrderReadModel.orderId) :
    (uniqueIndex OrderReadModel.orderId).createOrder documents order =
      .error ⟨"E11000 duplicate key error"⟩ := by
  obtain ⟨document, member, same⟩ := List.mem_map.mp held
  have taken : documents.any (fun stored => stored.orderId == order.orderId) = true :=
    List.any_eq_true.mpr ⟨document, member, by simp [same]⟩
  simp only [uniqueIndex, taken, ↓reduceIte]

/-- Under the order-keyed collection, a creation delivery for an order the
store holds returns an error and leaves the documents as they were. -/
theorem processEvent_orderKeyed_refuses
    (keyed : m.mongoOrderRepository = uniqueIndex OrderReadModel.orderId)
    (world : World) (streamEvent : StreamEvent) (orderId : UUID)
    (creates : streamEvent.createdOrderId = some orderId)
    (held : orderId ∈ world.store.map OrderReadModel.orderId) :
    (m.processEvent world streamEvent).2 ≠ none ∧
      (m.processEvent world streamEvent).1.store = world.store := by
  rcases streamEvent with ⟨eventID, position, evt | typeName⟩
  · obtain rfl : evt.orderId = orderId := Option.some.inj creates
    rcases m.onOrderCreated_cases world evt with
      ⟨err, -, called⟩ | ⟨items, err, -, -, called⟩ | ⟨items, -, inserted, -⟩
    · simp [processEvent, called]
    · simp [processEvent, called]
    · rw [keyed, uniqueIndex_orderId_refuses _ _ held] at inserted
      cases inserted
  · cases creates

/-- Under the order-keyed collection, one delivery keeps the stored orders
distinct. -/
theorem processEvent_orderKeyed_distinct
    (keyed : m.mongoOrderRepository = uniqueIndex OrderReadModel.orderId)
    (world : World) (streamEvent : StreamEvent)
    (distinct : (world.store.map OrderReadModel.orderId).Nodup) :
    ((m.processEvent world streamEvent).1.store.map OrderReadModel.orderId).Nodup := by
  obtain ⟨added, stored, orders⟩ := m.processEvent_appends world streamEvent
  rw [stored, List.map_append, orders]
  split
  · rename_i succeeded
    cases creates : streamEvent.createdOrderId with
    | none => simpa using distinct
    | some orderId =>
        have absent : orderId ∉ world.store.map OrderReadModel.orderId := fun held =>
          (m.processEvent_orderKeyed_refuses keyed world streamEvent orderId creates held).1
            succeeded
        exact List.pairwise_append.mpr ⟨distinct, List.pairwise_singleton _ _,
          fun stored held _ added => by
            rw [List.mem_singleton.mp added]
            exact fun same => absent (same ▸ held)⟩
  · simpa using distinct

/-- Under a collection keyed by order id, no delivery sequence puts two
documents of one order in a store that had none twice, and a creation
delivery for an order the store already holds, such as a redelivery of an
event that was applied, returns an error. -/
theorem processEvents_orderKeyed (world : World) (deliveries : List StreamEvent)
    (keyed : m.mongoOrderRepository = uniqueIndex OrderReadModel.orderId)
    (distinct : (world.store.map OrderReadModel.orderId).Nodup) :
    ((m.processEvents world deliveries).1.store.map OrderReadModel.orderId).Nodup ∧
      forall streamEvent orderId, streamEvent.createdOrderId = some orderId ->
        orderId ∈ (m.processEvents world deliveries).1.store.map OrderReadModel.orderId ->
        (m.processEvent (m.processEvents world deliveries).1 streamEvent).2 ≠ none := by
  have kept : ((m.processEvents world deliveries).1.store.map OrderReadModel.orderId).Nodup := by
    induction deliveries generalizing world with
    | nil => exact distinct
    | cons streamEvent deliveries ih =>
        exact ih _ (m.processEvent_orderKeyed_distinct keyed world streamEvent distinct)
  exact ⟨kept, fun streamEvent orderId creates held =>
    (m.processEvent_orderKeyed_refuses keyed _ streamEvent orderId creates held).1⟩

/-- Order 7's creation envelope, delivered once to the order-keyed
collection: delivering it again returns an error. -/
theorem processEvents_orderKeyed_redelivered :
    ((uniqueIndexProjection OrderReadModel.orderId).processEvent
      ((uniqueIndexProjection OrderReadModel.orderId).processEvents ⟨[], 0⟩
        [orderSevenCreated]).1 orderSevenCreated).2 ≠ none :=
  ((uniqueIndexProjection OrderReadModel.orderId).processEvents_orderKeyed ⟨[], 0⟩
    [orderSevenCreated] rfl List.nodup_nil).2 orderSevenCreated ⟨7⟩ rfl (by decide)

end MongoOrderProjection

end Orders
end EcommerceServices
