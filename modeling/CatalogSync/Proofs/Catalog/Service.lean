import CatalogSync.Proofs.Catalog.Store

namespace CatalogSync

namespace Store

-- The catalog with more partitions. Those that it has already stay as they are.
def withAdded (store : Store) (added : List Partition) : Store :=
  { store with partitions := added.foldl addPartition store.partitions }

-- The catalog without the partitions that a table has for some values.
def withDropped (store : Store) (table : TableKey) (dropped : List (List String)) : Store :=
  { store with
    partitions := dropped.foldl (fun all values => all.erase ⟨table, values⟩) store.partitions }

theorem withAdded_append (store : Store) (first second : List Partition) :
    store.withAdded (first ++ second) = (store.withAdded first).withAdded second := by
  simp only [withAdded, List.foldl_append]

-- The catalog accepts whatever is added to it.
theorem accepts_addPartitions (batches : List (List Partition)) (store : Store) :
    client.Accepts (batches.map fun batch => .addPartitions batch true false) store := by
  induction batches generalizing store with
  | nil => trivial
  | cons batch batches ih =>
      refine ⟨?_, ih _⟩
      have ha := answer_addPartitions store batch false
      exact (client.failure?_eq_none_iff _ _).mpr ⟨(), congrArg Prod.fst ha⟩

end Store

namespace Client

variable {σ τ : Type}

-- The client does to a catalog in memory, which `view` shows, what the calls say. It may fail any
-- call, and then the catalog stays as it is.
structure Serves (client : Client σ) (view : σ → Store) : Prop where
  answer_ok : ∀ call state reply, (client.answer call state).1 = .ok reply →
    (view state).answer call = (.ok reply, view (client.answer call state).2)
  keeps : client.KeepsOnFailure view

theorem serves_store : Store.client.Serves id where
  answer_ok _ _ _ h := Prod.ext h rfl
  keeps := Store.keepsOnFailure

theorem serves_interrupted (interruption : Interruption τ) :
    (Store.client.interrupted interruption).Serves Prod.fst where
  answer_ok := interrupted_ok Store.client interruption
  keeps := interrupted_keepsOnFailure Store.client interruption Store.keepsOnFailure

namespace Serves

variable {client : Client σ} {view : σ → Store} (h : client.Serves view) (state : σ)

include h

-- A call either fails or is carried out by the catalog.
theorem answer_cases (call : Call) :
    (∃ failure, (client.answer call state).1 = .error failure ∧
      view (client.answer call state).2 = view state) ∨
    ∃ reply, (client.answer call state).1 = .ok reply ∧
      (view state).answer call = (.ok reply, view (client.answer call state).2) := by
  cases hr : (client.answer call state).1 with
  | error failure =>
      exact .inl ⟨failure, rfl, h.keeps call state failure
        ((client.failure?_eq_some_iff call state failure).mpr hr)⟩
  | ok reply => exact .inr ⟨reply, rfl, h.answer_ok call state reply hr⟩

theorem exists_answer {call : Call} (hf : client.failure? call state = none) :
    ∃ reply, (view state).answer call = (.ok reply, view (client.answer call state).2) := by
  obtain ⟨reply, hr⟩ := (client.failure?_eq_none_iff _ _).mp hf
  exact ⟨reply, h.answer_ok _ _ _ hr⟩

theorem getTable_ok {database name : String} {table : Table}
    (hr : (client.answer (.getTable database name) state).1 = .ok table) :
    (view state).tables.get? ⟨database, name⟩ = some table ∧
      view (client.answer (.getTable database name) state).2 = view state :=
  Store.answer_getTable_ok (h.answer_ok _ _ _ hr)

-- The catalog is read-only for everything but the calls that change it.
theorem view_getTable (database name : String) :
    view (client.answer (.getTable database name) state).2 = view state := by
  rcases h.answer_cases state (.getTable database name) with ⟨_, -, hv⟩ | ⟨table, hr, -⟩
  · exact hv
  · exact (h.getTable_ok state hr).2

theorem view_close : view (client.answer .close state).2 = view state := by
  rcases h.answer_cases state .close with ⟨_, -, hv⟩ | ⟨reply, -, ha⟩
  · exact hv
  · exact (congrArg Prod.snd ha).symm

-- A client that adds partitions has added all that are not there.
theorem addPartitions_ok {batch : List Partition}
    (hf : client.failure? (.addPartitions batch true false) state = none) :
    view (client.answer (.addPartitions batch true false) state).2 =
      (view state).withAdded batch := by
  obtain ⟨reply, ha⟩ := h.exists_answer state hf
  rw [Store.answer_addPartitions] at ha
  exact (congrArg Prod.snd ha).symm

-- Batches that are accepted one after the other leave what adding all their partitions leaves.
theorem view_after_addPartitions (batches : List (List Partition)) (state : σ)
    (ha : client.Accepts (batches.map fun batch => .addPartitions batch true false) state) :
    view (client.after (batches.map fun batch => .addPartitions batch true false) state) =
      (view state).withAdded batches.flatten := by
  induction batches generalizing state with
  | nil => rfl
  | cons batch batches ih =>
      rw [List.map_cons, after, ih _ ha.2, h.addPartitions_ok state ha.1, List.flatten_cons,
        Store.withAdded_append]

-- Drops that are accepted one after the other leave what erasing their values leaves.
theorem view_after_dropPartition (database table : String) (dropped : List (List String))
    (state : σ)
    (ha : client.Accepts (dropped.map fun values => .dropPartition database table values false)
      state) :
    view (client.after (dropped.map fun values => .dropPartition database table values false)
        state) =
      (view state).withDropped ⟨database, table⟩ dropped := by
  induction dropped generalizing state with
  | nil => rfl
  | cons values dropped ih =>
      obtain ⟨reply, hreply⟩ := h.exists_answer state ha.1
      obtain ⟨-, hs⟩ := Store.answer_dropPartition_ok hreply
      rw [List.map_cons, after, ih _ ha.2, hs]
      rfl

end Serves

end Client

end CatalogSync
