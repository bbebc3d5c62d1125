import EcommerceServices.Orders.Denormalization

namespace EcommerceServices
namespace Orders

/-!
# The read model keyed by aggregate id

The spec describes a read model as a denormalized document keyed by aggregate
id, created on the first relevant event for that id.  `keyedView` reads a
document list that way: for each order, the content of the first document
held for it.  For creation events the abstract read model is then the one in
which, for each order, the first content delivered wins.

Under the collection keyed by order id the projection refines that abstract
model over every run, whatever each delivery returned: the view after a run is
the view before it, completed, for each order it lacked, by the first content
any delivery of the run denotes for that order.  A redelivery repeats an
envelope delivered earlier in the run, so it never supplies a first content,
and the view is the same with the redeliveries removed.  Under this index the
store half of the redelivery law holds; what breaks it is the error returned
to the consumer for an event that was applied.
-/

/-- The read model as the spec keys it: the content of the first document
held for the order, if any. -/
def keyedView (store : List OrderReadModel) (orderId : UUID) : Option OrderContent :=
  (store.find? fun document => document.orderId == orderId).map OrderReadModel.content

/-- The first of `contents` for the order: the abstract read model that a
sequence of creations builds when the first creation of an order wins. -/
def firstContent (contents : List OrderContent) (orderId : UUID) : Option OrderContent :=
  contents.find? fun content => content.orderId == orderId

theorem firstContent_append (contents more : List OrderContent) (orderId : UUID) :
    firstContent (contents ++ more) orderId =
      (firstContent contents orderId).or (firstContent more orderId) :=
  List.find?_append

/-- Documents appended after the stored ones are seen only for orders the
store lacks. -/
theorem keyedView_append (store added : List OrderReadModel) (orderId : UUID) :
    keyedView (store ++ added) orderId =
      (keyedView store orderId).or (firstContent (added.map OrderReadModel.content) orderId) := by
  simp only [keyedView, firstContent, List.find?_append, Option.map_or', List.find?_map]
  rfl

/-- Nothing added changes the view of an order the store holds. -/
theorem keyedView_or_of_held {store : List OrderReadModel} {orderId : UUID}
    (held : ∃ document ∈ store, document.orderId = orderId) (other : Option OrderContent) :
    (keyedView store orderId).or other = keyedView store orderId := by
  have found : (store.find? fun document => document.orderId == orderId).isSome :=
    List.find?_isSome.mpr (by simpa using held)
  obtain ⟨document, first⟩ := Option.isSome_iff_exists.mp found
  simp [keyedView, first]

/-- A unique index refuses only a document whose key a stored document has. -/
theorem uniqueIndex_refused_held (key : OrderReadModel -> UUID) (documents : List OrderReadModel)
    (order : OrderReadModel) (err : GoError)
    (refused : (uniqueIndex key).createOrder documents order = .error err) :
    ∃ stored ∈ documents, key stored = key order := by
  cases taken : documents.any (fun stored => key stored == key order)
  · simp only [uniqueIndex, taken, Bool.false_eq_true, ↓reduceIte] at refused
    cases refused
  · simpa using taken

/-- Removing later repeats of a value never changes the first value a search
finds: `eraseDups` keeps each value's first occurrence, in order. -/
theorem find?_eraseDups {α : Type} [DecidableEq α] (p : α -> Bool) (values : List α) :
    values.eraseDups.find? p = values.find? p := by
  suffices loop : ∀ seen : List α,
      (List.eraseDups.loop values seen).find? p = (seen.reverse ++ values).find? p by
    simpa using loop []
  intro seen
  induction values generalizing seen with
  | nil => simp [List.eraseDups.loop]
  | cons value values ih =>
      cases repeated : seen.elem value
      · simp only [List.eraseDups.loop, repeated, ih]
        simp
      · have member : value ∈ seen := List.elem_iff.mp repeated
        simp only [List.eraseDups.loop, repeated, ih, List.find?_append, List.find?_cons]
        cases earlier : seen.reverse.find? p with
        | some found => rfl
        | none =>
            have skipped : p value = false := by
              simpa using List.find?_eq_none.mp earlier value (List.mem_reverse.mpr member)
            simp [skipped]

namespace MongoOrderProjection

variable (m : MongoOrderProjection)

/-! ## One delivery -/

/-- Under the order-keyed collection, one delivery completes the keyed view by
the content its envelope denotes, whatever the delivery returned: a refused
insert is refused because the order is held already. -/
theorem processEvent_keyedView (keyed : m.mongoOrderRepository = uniqueIndex OrderReadModel.orderId)
    (world : World) (streamEvent : StreamEvent) (orderId : UUID) :
    keyedView (m.processEvent world streamEvent).1.store orderId =
      (keyedView world.store orderId).or
        (firstContent (m.denotedContent streamEvent).toList orderId) := by
  rcases streamEvent with ⟨eventID, position, evt | typeName⟩
  · rcases m.onOrderCreated_cases world evt with
      ⟨err, failed, called⟩ | ⟨items, err, mapped, refused, called⟩ | ⟨items, mapped, -, called⟩
    · simp [processEvent, called, denotedContent, failed, firstContent]
    · rw [keyed] at refused
      obtain ⟨stored, member, same⟩ := uniqueIndex_refused_held _ _ _ _ refused
      by_cases ordered : evt.orderId = orderId
      · simp only [processEvent, called]
        exact (keyedView_or_of_held ⟨stored, member, same.trans ordered⟩ _).symm
      · simp [processEvent, called, denotedContent, mapped, firstContent, ordered]
    · simp [processEvent, called, keyedView_append, denotedContent, mapped]
  · simp [processEvent, denotedContent, firstContent]

/-! ## Runs -/

/-- Under the order-keyed collection, the keyed view after a run is the view
before it, completed by the first content the run's deliveries denote for each
order. -/
theorem processEvents_keyedView_first
    (keyed : m.mongoOrderRepository = uniqueIndex OrderReadModel.orderId)
    (world : World) (deliveries : List StreamEvent) (orderId : UUID) :
    keyedView (m.processEvents world deliveries).1.store orderId =
      (keyedView world.store orderId).or
        (firstContent (deliveries.filterMap m.denotedContent) orderId) := by
  induction deliveries generalizing world with
  | nil => simp [firstContent]
  | cons streamEvent deliveries ih =>
      rw [processEvents_cons, ih, m.processEvent_keyedView keyed, Option.or_assoc,
        filterMap_denotedContent_cons, firstContent_append]

/-- The keyed read model under the order-keyed collection.  After any run it
holds, for each order, the stored content if the order was held before, and
otherwise the first content any delivery of the run denotes for it, whatever
the deliveries returned.  So it is the same as after the run with its
redeliveries removed. -/
theorem processEvents_keyedView (world : World) (deliveries : List StreamEvent)
    (keyed : m.mongoOrderRepository = uniqueIndex OrderReadModel.orderId) :
    (∀ orderId, keyedView (m.processEvents world deliveries).1.store orderId =
      (keyedView world.store orderId).or
        (firstContent (deliveries.filterMap m.denotedContent) orderId)) ∧
    (∀ orderId, keyedView (m.processEvents world deliveries).1.store orderId =
      keyedView (m.processEvents world deliveries.eraseDups).1.store orderId) := by
  refine ⟨m.processEvents_keyedView_first keyed world deliveries, fun orderId => ?_⟩
  rw [m.processEvents_keyedView_first keyed, m.processEvents_keyedView_first keyed]
  simp only [firstContent, List.find?_filterMap, find?_eraseDups]

/-- Order 7's creation envelope, delivered twice to the order-keyed
collection: the second delivery returns an error, and the keyed view is the
one a single delivery leaves. -/
theorem processEvents_keyedView_twice :
    ((uniqueIndexProjection OrderReadModel.orderId).processEvents ⟨[], 0⟩
        [orderSevenCreated, orderSevenCreated]).2[1]? ≠ some none ∧
      keyedView ((uniqueIndexProjection OrderReadModel.orderId).processEvents ⟨[], 0⟩
        [orderSevenCreated, orderSevenCreated]).1.store ⟨7⟩ =
        keyedView ((uniqueIndexProjection OrderReadModel.orderId).processEvents ⟨[], 0⟩
          [orderSevenCreated]).1.store ⟨7⟩ :=
  ⟨by decide, ((uniqueIndexProjection OrderReadModel.orderId).processEvents_keyedView ⟨[], 0⟩
    [orderSevenCreated, orderSevenCreated] rfl).2 ⟨7⟩⟩

end MongoOrderProjection

end Orders
end EcommerceServices
