import CatalogSync.Proofs.Catalog.Service

namespace CatalogSync

-- A part of a catalog that can change on its own: a database, or a table with its partitions.
inductive Target where
  | database (name : String)
  | table (key : TableKey)
deriving DecidableEq, Repr

namespace Call

-- The part that a call may change, if there is only one.
def target? : Call → Option Target
  | createDatabase database => some (.database database.name)
  | createTable table => some (.table ⟨table.database, table.name⟩)
  | alterTable database name _ _ => some (.table ⟨database, name⟩)
  | alterPartitions database table _ _ => some (.table ⟨database, table⟩)
  | dropPartition database table _ _ => some (.table ⟨database, table⟩)
  | getTable _ _ | addPartitions .. | close => none

-- Whether the call only reads an entry.
def isReading : Call → Bool
  | getTable _ _ => true
  | _ => false

end Call

namespace Store

-- All that a catalog holds besides one part of it, in the order in which it is kept.
def besides (store : Store) : Target → Store
  | .database name => { store with databases := store.databases.restrict fun k => k ≠ name }
  | .table key =>
    { store with
      tables := store.tables.restrict fun k => k ≠ key
      partitions := store.partitions.restrict fun k => k.table ≠ key }

theorem restrict_replaceAll (key : TableKey) (replacements : List Partition)
    (partitions : Dictionary PartitionKey Partition) :
    (replaceAll key partitions replacements).restrict (fun k => k.table ≠ key) =
      partitions.restrict fun k => k.table ≠ key := by
  induction replacements generalizing partitions with
  | nil => rfl
  | cons partition replacements ih =>
      exact (ih _).trans (Dictionary.restrict_insert _ _ _ _ (by simp))

theorem restrict_cascade (key : TableKey) (columns : List Column)
    (partitions : Dictionary PartitionKey Partition) :
    (cascade key columns partitions).restrict (fun k => k.table ≠ key) =
      partitions.restrict fun k => k.table ≠ key := by
  apply Dictionary.restrict_map
  intro k partition hk
  rw [if_neg (by simpa using hk)]

-- A call that is carried out changes nothing besides its own part of the catalog.
theorem besides_answer {call : Call} {target : Target} (ht : call.target? = some target)
    {store after : Store} {reply : call.Reply} (ha : store.answer call = (.ok reply, after)) :
    after.besides target = store.besides target := by
  cases call with
  | createDatabase database =>
      obtain rfl := Option.some.inj ht
      obtain ⟨-, rfl⟩ := answer_createDatabase_ok ha
      simp [besides, Dictionary.restrict_insert]
  | createTable table =>
      obtain rfl := Option.some.inj ht
      obtain ⟨-, rfl⟩ := answer_createTable_ok ha
      simp [besides, Dictionary.restrict_insert]
  | alterTable database name table request =>
      obtain rfl := Option.some.inj ht
      obtain rfl := answer_alterTable_ok ha
      have hpartitions : (if request.any isCascading then
            cascade ⟨database, name⟩ table.layout.columns store.partitions
          else store.partitions).restrict (fun k => k.table ≠ ⟨database, name⟩) =
          store.partitions.restrict fun k => k.table ≠ ⟨database, name⟩ := by
        split
        · exact restrict_cascade _ _ _
        · rfl
      simp only [besides, hpartitions]
      rw [Dictionary.restrict_insert _ _ _ _ (by simp)]
  | alterPartitions database table partitions request =>
      obtain rfl := Option.some.inj ht
      obtain ⟨-, rfl⟩ := answer_alterPartitions_ok ha
      simp only [besides, restrict_replaceAll]
  | dropPartition database table values deleteData =>
      obtain rfl := Option.some.inj ht
      obtain ⟨-, rfl⟩ := answer_dropPartition_ok ha
      simp only [besides]
      rw [Dictionary.restrict_erase _ _ _ (by simp)]
  | getTable | addPartitions | close => cases ht

end Store

namespace Client.Serves

variable {σ : Type} {client : Client σ} {view : σ → Store} (h : client.Serves view)

include h

theorem view_reading {call : Call} (hr : call.isReading = true) (state : σ) :
    view (client.answer call state).2 = view state := by
  cases call with
  | getTable database name => exact h.view_getTable state database name
  | _ => cases hr

theorem besides_answer {call : Call} {target : Target} (ht : call.target? = some target)
    (state : σ) : (view (client.answer call state).2).besides target =
      (view state).besides target := by
  rcases h.answer_cases state call with ⟨_, -, hv⟩ | ⟨reply, -, ha⟩
  · rw [hv]
  · exact Store.besides_answer ht ha

theorem view_after_readings (calls : List Call) (hr : ∀ call ∈ calls, call.isReading = true)
    (state : σ) : view (client.after calls state) = view state := by
  induction calls generalizing state with
  | nil => rfl
  | cons call calls ih =>
      have hfirst := h.view_reading (hr call List.mem_cons_self) state
      exact (ih (fun next hn => hr next (List.mem_cons_of_mem _ hn)) _).trans hfirst

-- Calls that read, or write to one part of the catalog, leave everything besides this part alone.
theorem besides_after (target : Target) (calls : List Call)
    (hc : ∀ call ∈ calls, call.isReading = true ∨ call.target? = some target) (state : σ) :
    (view (client.after calls state)).besides target = (view state).besides target := by
  induction calls generalizing state with
  | nil => rfl
  | cons call calls ih =>
      have hrest := ih (fun next hn => hc next (List.mem_cons_of_mem _ hn))
        (client.answer call state).2
      rcases hc call List.mem_cons_self with hr | ht
      · exact hrest.trans (congrArg (·.besides target) (h.view_reading hr state))
      · exact hrest.trans (h.besides_answer ht state)

end Client.Serves

end CatalogSync
