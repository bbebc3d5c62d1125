import EcommerceServices.Orders.Redelivery

namespace EcommerceServices
namespace Orders

/-!
# What a run writes to the read store

The spec's scenario reads: once `OrderCreatedEventV1{orderId=7, items=[A,B]}`
is delivered, the read model for order 7 exists with items `[A,B]`.  This
module states the general form, for every delivery sequence and every choice
of repository, item mapping and id source.  A document is abstracted to its
content, the order's denormalized values without the document's own id.  An
envelope denotes the content its creation event ought to produce: the event's
values, with the items as the registered mapping maps them.

`processEvents_denormalizes` relates a whole run to that abstraction.  The
documents a run adds are, in delivery order, exactly the contents denoted by
the creation deliveries that returned nil.  Each carries an id that
`uuid.NewV4` returned during the run, at a draw of its own.  And the run draws
one id per envelope that denotes a content, whether the insert then succeeds
or not, and none for anything else.

An envelope that denotes no content is inert: an ignored one, or a creation
event whose items do not map, such as a malformed payload.  It leaves the
world as it was and returns nil or its mapping error, so removing it from a
sequence changes neither the world the run leaves nor what any other delivery
returns (`processEvents_inert`).
-/

/-- The values a read model denormalizes from its order: the whole document
but its own id. -/
structure OrderContent where
  orderId : UUID
  shopItems : List ShopItemReadModel
  accountEmail : String
  deliveryAddress : String
  deliveredTime : Int
  deriving DecidableEq, Repr

/-- A document without its id. -/
def OrderReadModel.content (document : OrderReadModel) : OrderContent :=
  ⟨document.orderId, document.shopItems, document.accountEmail, document.deliveryAddress,
    document.deliveredTime⟩

/-- The creation event inside an envelope, when the type switch selects one. -/
def StreamEvent.createdEvent (streamEvent : StreamEvent) : Option OrderCreatedEventV1 :=
  match streamEvent.event with
  | .orderCreatedEventV1 evt => some evt
  | .other _ => none

@[simp] theorem StreamEvent.createdEvent_orderCreated (eventID : UUID) (position : Int)
    (evt : OrderCreatedEventV1) :
    StreamEvent.createdEvent ⟨eventID, position, .orderCreatedEventV1 evt⟩ = some evt := rfl

@[simp] theorem StreamEvent.createdEvent_other (eventID : UUID) (position : Int)
    (typeName : String) :
    StreamEvent.createdEvent ⟨eventID, position, .other typeName⟩ = none := rfl

namespace MongoOrderProjection

variable (m : MongoOrderProjection)

/-- The document `onOrderCreated` builds holds the event's values and the
mapped items. -/
@[simp] theorem orderRead_content (world : World) (evt : OrderCreatedEventV1)
    (items : List ShopItemReadModel) :
    (m.orderRead world evt items).content =
      ⟨evt.orderId, items, evt.accountEmail, evt.deliveryAddress, evt.deliveredTime⟩ := rfl

/-- The content an envelope denotes: its creation event's values, with the
items as the registered mapping maps them.  None for an envelope the type
switch ignores and for items that do not map. -/
def denotedContent (streamEvent : StreamEvent) : Option OrderContent :=
  streamEvent.createdEvent.bind fun evt =>
    match m.mapShopItems evt.shopItems with
    | .ok items =>
        some ⟨evt.orderId, items, evt.accountEmail, evt.deliveryAddress, evt.deliveredTime⟩
    | .error _ => none

/-- The contents a sequence of deliveries denotes: the first delivery's, if
any, then the rest's. -/
theorem filterMap_denotedContent_cons (streamEvent : StreamEvent) (deliveries : List StreamEvent) :
    (streamEvent :: deliveries).filterMap m.denotedContent =
      (m.denotedContent streamEvent).toList ++ deliveries.filterMap m.denotedContent := by
  cases denoted : m.denotedContent streamEvent <;> simp [denoted]

/-- The contents denoted by the deliveries that returned nil, in delivery
order, from the deliveries paired with what they returned. -/
def createdContents : List (StreamEvent × Option GoError) -> List OrderContent
  | [] => []
  | (streamEvent, result) :: outcomes =>
      (if result = none then (m.denotedContent streamEvent).toList else []) ++
        createdContents outcomes

@[simp] theorem createdContents_cons (streamEvent : StreamEvent) (result : Option GoError)
    (outcomes : List (StreamEvent × Option GoError)) :
    m.createdContents ((streamEvent, result) :: outcomes) =
      (if result = none then (m.denotedContent streamEvent).toList else []) ++
        m.createdContents outcomes := rfl

/-- `after` is `before` with the documents `added` appended, each under the id
of its own draw among `drawn`, all made between the two worlds: the shape of
what one delivery, and a whole run, writes. -/
structure Appended (before after : World) (added : List OrderReadModel) (drawn : List Nat) :
    Prop where
  store : after.store = before.store ++ added
  ids : added.map OrderReadModel.id = drawn.map m.newV4
  ordered : drawn.Pairwise (· < ·)
  within : ∀ draw ∈ drawn, before.draws ≤ draw ∧ draw < after.draws
  drawsGrow : before.draws ≤ after.draws

theorem Appended.refl (world : World) : m.Appended world world [] [] :=
  ⟨by simp, rfl, .nil, by simp, Nat.le_refl _⟩

/-- Two appends in sequence are one: the second's draws all follow the first's. -/
theorem Appended.trans {first middle last : World} {added more : List OrderReadModel}
    {drawn later : List Nat} (before : m.Appended first middle added drawn)
    (after : m.Appended middle last more later) :
    m.Appended first last (added ++ more) (drawn ++ later) where
  store := by rw [after.store, before.store, List.append_assoc]
  ids := by rw [List.map_append, List.map_append, before.ids, after.ids]
  ordered := List.pairwise_append.mpr ⟨before.ordered, after.ordered, fun early member late member' =>
    Nat.lt_of_lt_of_le (before.within early member).2 (after.within late member').1⟩
  within draw member := by
    rcases List.mem_append.mp member with early | late
    · exact ⟨(before.within draw early).1,
        Nat.lt_of_lt_of_le (before.within draw early).2 after.drawsGrow⟩
    · exact ⟨Nat.le_trans before.drawsGrow (after.within draw late).1, (after.within draw late).2⟩
  drawsGrow := Nat.le_trans before.drawsGrow after.drawsGrow

/-! ## One delivery -/

/-- What one delivery writes and draws, against the abstraction.  It appends
the content its envelope denotes when it returned nil, and nothing otherwise,
under the id of a draw it made; and it draws once exactly when the envelope
denotes a content. -/
theorem processEvent_denormalizes (world : World) (streamEvent : StreamEvent) :
    exists added drawn, m.Appended world (m.processEvent world streamEvent).1 added drawn ∧
      added.map OrderReadModel.content =
        (if (m.processEvent world streamEvent).2 = none then
          (m.denotedContent streamEvent).toList else []) ∧
      (m.processEvent world streamEvent).1.draws =
        world.draws + (m.denotedContent streamEvent).toList.length := by
  rcases streamEvent with ⟨eventID, position, evt | typeName⟩
  · rcases m.onOrderCreated_cases world evt with
      ⟨err, failed, called⟩ | ⟨items, err, mapped, -, called⟩ | ⟨items, mapped, -, called⟩ <;>
      simp only [processEvent, called]
    · exact ⟨[], [], Appended.refl m world, by simp [denotedContent, failed]⟩
    · exact ⟨[], [], ⟨by simp, rfl, .nil, by simp, Nat.le_succ _⟩,
        by simp [denotedContent, mapped]⟩
    · exact ⟨[m.orderRead world evt items], [world.draws],
        ⟨rfl, rfl, List.pairwise_singleton _ _, by simp, Nat.le_succ _⟩,
        by simp [denotedContent, mapped]⟩
  · exact ⟨[], [], Appended.refl m world, by simp [processEvent, denotedContent]⟩

/-! ## Runs -/

/-- What a whole run writes to the read store.  The documents it adds are, in
delivery order, exactly the contents denoted by the deliveries that returned
nil, redeliveries included; each is stored under an id that the source
returned during the run, at a draw of its own.  The run draws one id for every
delivery that denotes a content and no other, whether its insert succeeds or
not. -/
theorem processEvents_denormalizes (world : World) (deliveries : List StreamEvent) :
    exists added drawn, m.Appended world (m.processEvents world deliveries).1 added drawn ∧
      added.map OrderReadModel.content =
        m.createdContents (deliveries.zip (m.processEvents world deliveries).2) ∧
      (m.processEvents world deliveries).1.draws =
        world.draws + (deliveries.filterMap m.denotedContent).length := by
  induction deliveries generalizing world with
  | nil => exact ⟨[], [], Appended.refl m world, rfl, rfl⟩
  | cons streamEvent deliveries ih =>
      obtain ⟨first, drawn, firstAppended, firstContents, firstDraws⟩ :=
        m.processEvent_denormalizes world streamEvent
      obtain ⟨rest, later, restAppended, restContents, restDraws⟩ :=
        ih (m.processEvent world streamEvent).1
      refine ⟨first ++ rest, drawn ++ later, firstAppended.trans m restAppended, ?_, ?_⟩
      · simp only [processEvents_cons, List.zip_cons_cons, createdContents_cons, List.map_append,
          firstContents, restContents]
      · rw [processEvents_cons, restDraws, firstDraws, filterMap_denotedContent_cons,
          List.length_append, Nat.add_assoc]

/-! ## Deliveries that denote nothing -/

/-- A delivery that denotes no content leaves the world as it was.  It is an
ignored envelope and returns nil, or a creation event whose items do not map,
and returns the mapping's error under the handler's annotation. -/
theorem processEvent_inert (world : World) (streamEvent : StreamEvent)
    (inert : m.denotedContent streamEvent = none) :
    (m.processEvent world streamEvent).1 = world ∧
      ((streamEvent.createdEvent = none ∧ (m.processEvent world streamEvent).2 = none) ∨
        exists evt err, streamEvent.createdEvent = some evt ∧
          m.mapShopItems evt.shopItems = .error err ∧
          (m.processEvent world streamEvent).2 = some (err.wrapIf
            "[mongoOrderProjection_onOrderCreated.Map] error in mapping shopItems")) := by
  rcases streamEvent with ⟨eventID, position, evt | typeName⟩
  · rcases m.onOrderCreated_cases world evt with
      ⟨err, failed, called⟩ | ⟨items, err, mapped, -, -⟩ | ⟨items, mapped, -, -⟩
    · exact ⟨by simp [processEvent, called],
        .inr ⟨evt, err, rfl, failed, by simp [processEvent, called]⟩⟩
    all_goals simp [denotedContent, mapped] at inert
  · exact ⟨rfl, .inl ⟨rfl, rfl⟩⟩

/-- Removing the inert deliveries from a sequence leaves the same world, and
every other delivery returns what it returned in the whole sequence. -/
theorem processEvents_filter_inert (world : World) (deliveries : List StreamEvent) :
    (m.processEvents world (deliveries.filter fun streamEvent =>
        (m.denotedContent streamEvent).isSome)) =
      ((m.processEvents world deliveries).1,
        ((deliveries.zip (m.processEvents world deliveries).2).filter fun outcome =>
          (m.denotedContent outcome.1).isSome).map Prod.snd) := by
  induction deliveries generalizing world with
  | nil => rfl
  | cons streamEvent deliveries ih =>
      cases denoted : m.denotedContent streamEvent with
      | none =>
          have unchanged := (m.processEvent_inert world streamEvent denoted).1
          simp only [List.filter_cons, denoted, Option.isSome_none, Bool.false_eq_true, ↓reduceIte,
            processEvents_cons, List.zip_cons_cons, unchanged, ih]
      | some content =>
          simp only [List.filter_cons, denoted, Option.isSome_some, ↓reduceIte, processEvents_cons,
            List.zip_cons_cons, List.map_cons, ih]

/-- Every inert delivery of a run returns nil if the type switch ignores it,
and otherwise its mapping's error under the handler's annotation. -/
theorem processEvents_inert_results (world : World) (deliveries : List StreamEvent) :
    ∀ outcome ∈ deliveries.zip (m.processEvents world deliveries).2,
      m.denotedContent outcome.1 = none ->
        (outcome.1.createdEvent = none ∧ outcome.2 = none) ∨
          exists evt err, outcome.1.createdEvent = some evt ∧
            m.mapShopItems evt.shopItems = .error err ∧
            outcome.2 = some (err.wrapIf
              "[mongoOrderProjection_onOrderCreated.Map] error in mapping shopItems") := by
  induction deliveries generalizing world with
  | nil => simp
  | cons streamEvent deliveries ih =>
      intro outcome member inert
      rcases List.mem_cons.mp member with rfl | later
      · exact (m.processEvent_inert world streamEvent inert).2
      · exact ih _ outcome later inert

/-- A delivery that denotes no content, an ignored envelope or a creation
event whose items do not map such as a malformed payload, is isolated.  It
returns nil if ignored and otherwise its mapping's error under the handler's
annotation; and removing all such deliveries from any sequence leaves the
same world and the same result for every other delivery. -/
theorem processEvents_inert (world : World) (deliveries : List StreamEvent) :
    (∀ outcome ∈ deliveries.zip (m.processEvents world deliveries).2,
      m.denotedContent outcome.1 = none ->
        (outcome.1.createdEvent = none ∧ outcome.2 = none) ∨
          exists evt err, outcome.1.createdEvent = some evt ∧
            m.mapShopItems evt.shopItems = .error err ∧
            outcome.2 = some (err.wrapIf
              "[mongoOrderProjection_onOrderCreated.Map] error in mapping shopItems")) ∧
    (m.processEvents world (deliveries.filter fun streamEvent =>
        (m.denotedContent streamEvent).isSome)).1 = (m.processEvents world deliveries).1 ∧
    (m.processEvents world (deliveries.filter fun streamEvent =>
        (m.denotedContent streamEvent).isSome)).2 =
      ((deliveries.zip (m.processEvents world deliveries).2).filter fun outcome =>
        (m.denotedContent outcome.1).isSome).map Prod.snd := by
  rw [m.processEvents_filter_inert world deliveries]
  exact ⟨m.processEvents_inert_results world deliveries, rfl, rfl⟩

end MongoOrderProjection

end Orders
end EcommerceServices
