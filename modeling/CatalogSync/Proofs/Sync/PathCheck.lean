import CatalogSync.Proofs.Partition.Spec
import CatalogSync.Proofs.Storage.Location
import CatalogSync.Proofs.Sync.Keys
import CatalogSync.Proofs.Sync.Validation

namespace CatalogSync

open Traversal

variable {failure : Failure}

theorem Failure.isOwn_of_isValues (h : failure.isValues = true) : failure.isOwn = true := by
  unfold Failure.isValues at h
  unfold Failure.isOwn
  split at h
  · next hp => rw [hp]; rfl
  · next hp => rw [hp]; rfl
  · cases h

theorem Location.isValues_of_resolve {base path : String} {filesystem : Option FileSystem}
    (h : resolve base path filesystem = .error failure) : failure.isValues = false := by
  rcases resolve_error h with ⟨problem, rfl⟩ | rfl <;> rfl

theorem Batch.plan_singleton {α : Type} (size : Int) (item : α) : plan size [item] = [[item]] := by
  unfold plan
  split
  · rfl
  · simp [slices]

namespace Executor

open CatalogSync.Action

section SinglePath

variable {executor : Executor Store} {table path : String} {session : Session Store}

-- A failure about a path is reported as it is.
theorem reported_of_isValues {database : String} {table : Option String} {kind : OperationKind}
    (h : failure.isValues = true) : reported database table kind failure = failure :=
  if_pos (Failure.isOwn_of_isValues h)

-- The values that a path is added under, if the table has the configured fields as its keys.
def addedValues {σ : Type} (executor : Executor σ) (path : String) :
    Except Failure (List String) :=
  executor.extractor.extract path (some executor.settings.partitionFields)

theorem droppedValues_eq_addedValues (hfields : executor.settings.partitionFields ≠ [])
    (path : String) : executor.droppedValues path = executor.addedValues path := by
  rw [droppedValues, knownKeys, if_neg (by simpa using hfields), addedValues]

-- Without configured fields a removal expects no particular number of values.
theorem droppedValues_of_no_fields (hfields : executor.settings.partitionFields = [])
    (path : String) : executor.droppedValues path = executor.extractor.values path := by
  rw [droppedValues, knownKeys, if_pos (by simpa using hfields), Extractor.extract_none]

-- What an addition takes, a removal takes.
theorem droppedValues_of_addedValues {values : List String}
    (h : executor.addedValues path = .ok values) : executor.droppedValues path = .ok values := by
  by_cases hfields : executor.settings.partitionFields = []
  · rw [droppedValues_of_no_fields hfields]
    exact (Extractor.extract_some_iff.mp h).1
  · rw [droppedValues_eq_addedValues hfields, h]

theorem specs_singleton {entry : Table}
    (hkeys : entry.partitionKeys.map Column.name = executor.settings.partitionFields)
    (path : String) : executor.specs entry [path] = do
      let values ← executor.addedValues path
      let location ← Location.resolve executor.settings.basePath path executor.fileSystem
      return [⟨path, values, location⟩] := by
  rw [specs, hkeys, List.mapM_cons, List.mapM_nil]
  simp only [PartitionSpec.make, addedValues, bind_assoc, pure_bind]

-- A removal of one path ends without a call if the path gives no values.
theorem dropPartitions_refused (table : String) (session : Session Store)
    (h : executor.droppedValues path = .error failure) :
    let dropped := (executor.dropPartitions table [path]).perform session
    dropped.1 =
        .error (reported executor.settings.databaseName table .dropPartitions failure) ∧
      dropped.2.calls = session.calls := by
  have hm : Makes Store.client _ session.catalog _ _ :=
    executor.makes_dropPartitions table [path] (List.cons_ne_nil _ _)
      (executor.makes_dropEach_invalid table path [] failure h)
  obtain ⟨hr, hc, -⟩ := hm session rfl
  exact ⟨hr, hc.trans (List.append_nil _)⟩

variable (hclient : executor.client = some Store.client)

include hclient

-- Otherwise it asks for these values to be dropped, and what the catalog has to say of that is not
-- about the path.
theorem dropPartitions_asked (table : String) (session : Session Store) {values : List String}
    (h : executor.droppedValues path = .ok values) :
    let dropped := (executor.dropPartitions table [path]).perform session
    isValuesFailure dropped.1 = false ∧
      dropped.2.calls = session.calls ++ [executor.dropping table values] := by
  intro dropped
  cases hf : Store.client.failure? (executor.dropping table values) session.catalog with
  | none =>
      have hm := executor.makes_dropPartitions table [path] (List.cons_ne_nil _ _)
        (executor.makes_dropEach_cons table hclient path [] values h hf (makes_pure ()))
      obtain ⟨hr, hc, -⟩ := hm session rfl
      exact ⟨congrArg isValuesFailure hr, hc⟩
  | some found =>
      have hm := executor.makes_dropPartitions table [path] (List.cons_ne_nil _ _)
        (executor.makes_dropEach_refused table hclient path [] values h found hf)
      obtain ⟨hr, hc, -⟩ := hm session rfl
      refine ⟨(congrArg isValuesFailure hr).trans (Bool.eq_false_iff.mpr fun hvalues => ?_), hc⟩
      have hfound := (reported_isValues hvalues).2
      exact nomatch hfound.symm.trans (Store.isValues_of_failure? hf)

theorem addPartitions_refused (htable : executor.HasTable session.catalog table)
    (h : executor.addedValues path = .error failure) :
    ((executor.addPartitions table [path]).perform session).1 = .error failure := by
  obtain ⟨entry, hread, hkeys⟩ := htable.exists_read
  have hspecs : executor.specs entry [path] = .error failure := by
    rw [specs_singleton hkeys, h]
    rfl
  have hm := executor.makes_addPartitions_invalid hclient table [path] (List.cons_ne_nil _ _) entry
    hread failure hspecs
  exact (hm session rfl).1

-- An addition of one path submits the values of the path, unless it has no location.
theorem addPartitions_submitted (htable : executor.HasTable session.catalog table)
    {values : List String} (h : executor.addedValues path = .ok values) :
    let added := (executor.addPartitions table [path]).perform session
    (∃ failure,
        Location.resolve executor.settings.basePath path executor.fileSystem = .error failure ∧
        added.1 = .error failure ∧
        added.2.calls = session.calls ++ [executor.reading table]) ∨
      ∃ partition done, partition.values = values ∧ added.1 = .ok done ∧
        added.2.calls = session.calls ++ [executor.reading table, sending [partition]] := by
  intro added
  obtain ⟨entry, hread, hkeys⟩ := htable.exists_read
  have hspecs := specs_singleton hkeys path
  rw [h] at hspecs
  cases hl : Location.resolve executor.settings.basePath path executor.fileSystem with
  | error found =>
      rw [hl] at hspecs
      have hm := executor.makes_addPartitions_invalid hclient table [path] (List.cons_ne_nil _ _)
        entry hread found hspecs
      obtain ⟨hr, hc, -⟩ := hm session rfl
      exact .inl ⟨found, rfl, hr, hc⟩
  | ok location =>
      rw [hl] at hspecs
      have hm := executor.makes_addPartitions_sent hclient table [path] (List.cons_ne_nil _ _) entry
        hread _ hspecs (Store.accepts_addPartitions _ _)
      obtain ⟨hr, hc, -⟩ := hm session rfl
      simp only [batches, Batch.plan_singleton, List.map_cons, List.map_nil] at hc
      exact .inr ⟨_, _, rfl, hr, hc⟩

-- Which failures about the values of a path end an addition and a removal.
theorem addPartitions_error_iff (htable : executor.HasTable session.catalog table)
    (hvalues : failure.isValues = true) :
    ((executor.addPartitions table [path]).perform session).1 = .error failure ↔
      executor.addedValues path = .error failure := by
  refine ⟨fun hr => ?_, executor.addPartitions_refused hclient htable⟩
  cases h : executor.addedValues path with
  | error found =>
      obtain rfl := Except.error.inj ((addPartitions_refused hclient htable h).symm.trans hr)
      rfl
  | ok values =>
      rcases executor.addPartitions_submitted hclient htable h with
        ⟨found, hl, hfound, -⟩ | ⟨partition, done, -, hdone, -⟩
      · obtain rfl := Except.error.inj (hfound.symm.trans hr)
        exact nomatch hvalues.symm.trans (Location.isValues_of_resolve hl)
      · exact nomatch hdone.symm.trans hr

-- Values that the extractor gives and an addition does not refuse are as many as the keys.
theorem addedValues_of_accepted (htable : executor.HasTable session.catalog table)
    {values : List String} (hvalues : executor.extractor.values path = .ok values)
    (haccepted :
      isValuesFailure ((executor.addPartitions table [path]).perform session).1 = false) :
    executor.addedValues path = .ok values := by
  cases h : executor.addedValues path with
  | ok found =>
      have hfound := (Extractor.extract_some_iff.mp h).1
      exact hfound.symm.trans hvalues
  | error found =>
      rcases Extractor.extract_some_eq_error_iff.mp h with hf | ⟨counted, -, -, rfl⟩
      · exact nomatch hf.symm.trans hvalues
      · rw [executor.addPartitions_refused hclient htable h] at haccepted
        cases haccepted

theorem dropPartitions_error_iff (hvalues : failure.isValues = true) :
    ((executor.dropPartitions table [path]).perform session).1 = .error failure ↔
      executor.droppedValues path = .error failure := by
  cases h : executor.droppedValues path with
  | error found =>
      obtain ⟨hr, -⟩ := executor.dropPartitions_refused table session h
      rw [hr, Except.error.injEq, Except.error.injEq]
      constructor
      · rintro rfl
        exact (reported_isValues hvalues).1.symm
      · rintro rfl
        exact reported_of_isValues hvalues
  | ok values =>
      obtain ⟨hr, -⟩ := executor.dropPartitions_asked hclient table session h
      refine iff_of_false (fun he => ?_) nofun
      rw [he] at hr
      exact nomatch hvalues.symm.trans hr

end SinglePath

-- What the table for the days is made from.
def dailyRequest : TableRequest where
  name := "sales"
  schema := [{ name := "id", type := .boolean }]
  inputFormat := "in"
  outputFormat := "out"
  serialization := "serde"

-- A path is refused by a removal exactly if it is refused by an addition, for the same reason and
-- without a call, if partition fields are configured. Without them a removal takes every number of
-- values, and an addition none. What both of them take is dropped under the values that it is added
-- under.
theorem dropPartitions_checks_as_addPartitions (executor : Executor Store)
    (hclient : executor.client = some Store.client) (request : TableRequest)
    (start : Session Store) (created : Table)
    (hcreated : ((executor.createTable request).perform start).1 = .ok created)
    (operations : List Operation) (path : String) :
    let table := request.name
    let session := Operation.run executor operations ((executor.createTable request).perform start).2
    let added := (executor.addPartitions table [path]).perform session
    let dropped := (executor.dropPartitions table [path]).perform session
    (∀ failure, failure.isValues = true →
      (dropped.1 = .error failure → dropped.2.calls = session.calls) ∧
      (executor.settings.partitionFields ≠ [] →
        (dropped.1 = .error failure ↔ added.1 = .error failure)) ∧
      (executor.settings.partitionFields = [] →
        (dropped.1 = .error failure ↔ executor.extractor.values path = .error failure) ∧
        (added.1 = .error failure ↔
          executor.extractor.values path = .error failure ∨
          ∃ values, executor.extractor.values path = .ok values ∧ values ≠ [] ∧
            failure = .values (.count path values [])))) ∧
    ∀ values, executor.extractor.values path = .ok values →
      isValuesFailure added.1 = false →
      isValuesFailure dropped.1 = false ∧
      dropped.2.calls = session.calls ++ [executor.dropping table values] ∧
      ((∃ failure,
          Location.resolve executor.settings.basePath path executor.fileSystem = .error failure ∧
          added.1 = .error failure ∧
          added.2.calls = session.calls ++ [executor.reading table]) ∨
        ∃ partition done, partition.values = values ∧ added.1 = .ok done ∧
          added.2.calls = session.calls ++ [executor.reading table, sending [partition]]) := by
  intro table session added dropped
  have htable : executor.HasTable session.catalog table :=
    (hasTable_createTable hclient Client.serves_store request start created hcreated).run hclient
      Client.serves_store operations _
  refine ⟨fun failure hvalues => ⟨fun hr => ?_, fun hfields => ?_, fun hfields => ⟨?_, ?_⟩⟩, ?_⟩
  · exact (dropPartitions_refused _ _ ((dropPartitions_error_iff hclient hvalues).mp hr)).2
  · rw [dropPartitions_error_iff hclient hvalues, addPartitions_error_iff hclient htable hvalues,
      droppedValues_eq_addedValues hfields]
  · rw [dropPartitions_error_iff hclient hvalues, droppedValues_of_no_fields hfields]
  · rw [addPartitions_error_iff hclient htable hvalues, addedValues, hfields,
      Extractor.extract_some_eq_error_iff]
    simp only [List.length_nil, ne_eq, List.length_eq_zero_iff]
  · intro values hvalues hadded
    have htaken := addedValues_of_accepted hclient htable hvalues hadded
    obtain ⟨hr, hc⟩ := dropPartitions_asked hclient _ _ (droppedValues_of_addedValues htaken)
    exact ⟨hr, hc, addPartitions_submitted hclient htable htaken⟩

-- A table for one partition per day, after a day has been added to it: an empty value is refused
-- both ways, and another day is added and dropped under one value.
theorem dropPartitions_checks_as_addPartitions_daily :
    let executor := daily Store.client 0
    let table := dailyRequest.name
    let start : Session Store := { catalog := .empty }
    let session := Operation.run executor [.addPartitions table ["day=1"]]
      ((executor.createTable dailyRequest).perform start).2
    let added := fun path => (executor.addPartitions table [path]).perform session
    let dropped := fun path => (executor.dropPartitions table [path]).perform session
    (∃ failure, failure.isValues = true ∧ (added "day=").1 = .error failure ∧
      (dropped "day=").1 = .error failure ∧ (dropped "day=").2.calls = session.calls) ∧
    (dropped "day=2").2.calls = session.calls ++ [executor.dropping table ["2"]] ∧
    ∃ partition done, partition.values = ["2"] ∧ (added "day=2").1 = .ok done ∧
      (added "day=2").2.calls =
        session.calls ++ [executor.reading table, sending [partition]] := by
  intro executor table start session added dropped
  have hstored : ((executor.createTable dailyRequest).perform start).1.toOption.isSome = true := by
    decide +kernel
  obtain ⟨created, hcreated⟩ := Option.isSome_iff_exists.mp hstored
  have hcases := fun path => executor.dropPartitions_checks_as_addPartitions rfl dailyRequest
    start created (eq_ok_of_toOption hcreated) [.addPartitions table ["day=1"]] path
  have hfields : executor.settings.partitionFields ≠ [] := by decide +kernel
  have hrefused : isValuesFailure (added "day=").1 = true := by decide +kernel
  have haccepted : isValuesFailure (added "day=2").1 = false := by decide +kernel
  have hvalues : executor.extractor.values "day=2" = .ok ["2"] :=
    eq_ok_of_toOption (by decide +kernel)
  have hlocated :
      (Location.resolve executor.settings.basePath "day=2" executor.fileSystem).toOption =
        some "s3://lake/sales/day=2" := by decide +kernel
  obtain ⟨failure, hr, hfailure⟩ := exists_of_isValuesFailure hrefused
  with_reducible obtain ⟨hquiet, hsame, -⟩ := (hcases "day=").1 failure hfailure
  with_reducible have hboth := (hsame hfields).mpr hr
  with_reducible obtain ⟨-, hc, hsent⟩ := (hcases "day=2").2 _ hvalues haccepted
  with_reducible refine ⟨⟨failure, hfailure, hr, hboth, hquiet hboth⟩, hc, ?_⟩
  rcases hsent with ⟨found, hfound, -⟩ | hsent
  · rw [hfound] at hlocated
    cases hlocated
  · with_reducible exact hsent

-- Without partition fields an addition refuses the path because there is a value too many, and a
-- removal asks the catalog to drop a partition with this value.
theorem dropPartitions_checks_less :
    let executor : Executor Store :=
      { daily Store.client 0 with
        settings := { basePath := "s3://lake/sales" }, extractor := PathForm.multiPart.extractor }
    let created := (executor.createTable dailyRequest).perform { catalog := .empty }
    let added := (executor.addPartitions "sales" ["a"]).perform created.2
    let dropped := (executor.dropPartitions "sales" ["a"]).perform created.2
    created.1.toOption.isSome = true ∧ isValuesFailure added.1 = true ∧
      isValuesFailure dropped.1 = false ∧
      dropped.2.calls = created.2.calls ++ [executor.dropping "sales" ["a"]] := by
  intro executor created added dropped
  have hvalues : executor.droppedValues "a" = .ok ["a"] := eq_ok_of_toOption (by decide +kernel)
  with_reducible refine ⟨by decide +kernel, by decide +kernel, ?_⟩
  exact dropPartitions_asked rfl _ _ hvalues

end Executor

end CatalogSync
