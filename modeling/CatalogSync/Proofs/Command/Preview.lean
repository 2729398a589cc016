import CatalogSync.Command.Line
import CatalogSync.Proofs.Sync.Preview

namespace CatalogSync.Command

-- The outcome of printing a sheet behind what is printed already. In the place of a text that
-- cannot be put together stands the failure. The first failure ends it, be it of a text or of the
-- console.
def Console.outcome (console : Console) (printed : List Output) :
    List (Except Failure Output) → Outcome
  | [] => { code := 0, printed }
  | .error failure :: _ => { code := 1, printed, failure := some failure }
  | .ok output :: sheet =>
    match console.obstacle? output with
    | none => console.outcome (printed ++ [output]) sheet
    | some failure => { code := 1, printed, failure := some failure }

theorem perform_bind {α β : Type} (console : Console) (command : Printer α) (next : α → Printer β)
    (printed : List Output) :
    perform console (command >>= next) printed =
      match perform console command printed with
      | (.ok a, printed) => perform console (next a) printed
      | (.error stop, printed) => (.error stop, printed) := by
  simp only [perform, bind, ReaderT.bind, ReaderT.run, ExceptT.bind, ExceptT.run, ExceptT.mk,
    StateT.bind, StateT.run, Id.run]
  rcases (command console printed : Except Stop α × List Output) with ⟨_ | _, _⟩ <;> rfl

theorem perform_print (console : Console) (output : Output) (printed : List Output) :
    perform console (print output) printed =
      match console.obstacle? output with
      | none => (.ok (), printed ++ [output])
      | some failure => (.error (.failure failure), printed) := by
  have hread : perform console (read : Printer Console) printed = (.ok console, printed) := rfl
  rw [print, perform_bind, hread]
  dsimp only
  cases console.obstacle? output <;> rfl

-- The command prints a sheet and then ends, whatever is printed already.
def Shows (console : Console) (command : Printer Unit) (sheet : List (Except Failure Output)) :
    Prop :=
  ∀ printed, outcome (perform console command printed) = console.outcome printed sheet

section Shows

variable {console : Console} {sheet : List (Except Failure Output)}

theorem shows_print_bind {next : Unit → Printer Unit} (hnext : Shows console (next ()) sheet)
    (output : Output) : Shows console (print output >>= next) (.ok output :: sheet) := by
  intro printed
  rw [perform_bind, perform_print, Console.outcome]
  cases console.obstacle? output with
  | none => exact hnext (printed ++ [output])
  | some failure => rfl

theorem shows_print (output : Output) : Shows console (print output) [.ok output] := by
  intro printed
  rw [perform_print, Console.outcome]
  cases console.obstacle? output <;> rfl

theorem shows_written_bind {n : Int} {next : String → Printer Unit} {output : Output}
    (hnext : Shows console (next (toString n)) [.ok output]) :
    Shows console (written (.integer n) >>= next)
      [if Numeral.isTooLong n then .error (.value .longNumeral) else .ok output] := by
  cases hn : Numeral.isTooLong n with
  | true =>
      intro printed
      simp only [written, Datum.isWritable, hn]
      rfl
  | false =>
      simp only [written, Datum.isWritable, hn, Bool.not_false, if_true, pure_bind]
      exact hnext

end Shows

-- The row of a path whose partition is sent with these values and this location.
def previewRow (settings : Settings) (path : String) (place : List String × Option String) :
    List String :=
  [path,
    ", ".intercalate (settings.partitionFields.zipWith (fun key value => key ++ "=" ++ value)
      place.1),
    place.2.getD ""]

-- What a preview prints of paths, in terms of what is sent for them and in how many batches.
def previewSheet (settings : Settings) (paths : List String)
    (places : List (List String × Option String)) (batches : Nat) :
    List (Except Failure Output) :=
  [.ok (.heading "Partitions"),
    .ok (.remark ("Base path: " ++ settings.basePath ++ " | Extractor: " ++
      settings.partitionExtractor)),
    .ok (.table "Partitions" ["Partition", "Values", "Location"]
      (paths.zipWith (previewRow settings) places)),
    if Numeral.isTooLong settings.batchSize then .error (.value .longNumeral)
    else .ok (.remark ("Partitions: " ++ toString places.length ++ " | Add batches: " ++
      toString batches ++ " (batch size " ++ toString settings.batchSize ++ ")"))]

-- All that is printed of a batch size that can be written.
theorem Console.outcome_previewSheet {console : Console}
    (hprints : ∀ output, console.obstacle? output = none) {settings : Settings}
    (hshort : Numeral.isTooLong settings.batchSize = false) (paths : List String)
    (places : List (List String × Option String)) (batches : Nat) :
    console.outcome [] (previewSheet settings paths places batches) = {
      code := 0
      printed := [
        .heading "Partitions",
        .remark ("Base path: " ++ settings.basePath ++ " | Extractor: " ++
          settings.partitionExtractor),
        .table "Partitions" ["Partition", "Values", "Location"]
          (paths.zipWith (previewRow settings) places),
        .remark ("Partitions: " ++ toString places.length ++ " | Add batches: " ++
          toString batches ++ " (batch size " ++ toString settings.batchSize ++ ")")] } := by
  rw [previewSheet, if_neg (by simp [hshort])]
  simp only [Console.outcome, hprints, List.nil_append, List.cons_append]

section Preview

variable (console : Console) {world : World} {loaded settings : Settings}
  {request : PreviewRequest} {found : Preview} {failure : Failure}

-- The specs that are found are shown as what is sent for them.
theorem partitionsTable_eq (hfields : settings.partitionFields ≠ []) (specs : List PartitionSpec) :
    partitionsTable (Preview.keys settings) specs =
      .table "Partitions" ["Partition", "Values", "Location"]
        ((specs.map PartitionSpec.path).zipWith (previewRow settings)
          (specs.map PartitionSpec.place)) := by
  have hknown : Preview.keys settings = some settings.partitionFields := by
    rw [Preview.keys, if_neg (by simpa using hfields)]
  rw [hknown, partitionsTable, List.zipWith_map, List.zipWith_self]
  rfl

theorem shows_showPreview (hfields : settings.partitionFields ≠ []) (found : Preview) :
    Shows console (showPreview settings found)
      (previewSheet settings (found.specs.map PartitionSpec.path)
        (found.specs.map PartitionSpec.place) found.batches) := by
  have hsize : settings.value .batchSize = .integer settings.batchSize := rfl
  rw [showPreview, partitionsTable_eq hfields, hsize, previewSheet, List.length_map]
  refine shows_print_bind (shows_print_bind (shows_print_bind ?_ _) _) _
  exact shows_written_bind (shows_print _)

-- With a base path a preview is made and shown.
theorem preview_eq (hbase : (request.settings loaded).basePath ≠ "") :
    preview world loaded request =
      orDie isOwnFailure 1
          (Preview.make world.registry (request.settings loaded) request.paths) >>=
        showPreview (request.settings loaded) := by
  simp only [preview, hbase, if_false]

theorem run_preview_of_found (hbase : (request.settings loaded).basePath ≠ "")
    (hfields : (request.settings loaded).partitionFields ≠ [])
    (h : Preview.make world.registry (request.settings loaded) request.paths = .ok found) :
    run console (preview world loaded request) = console.outcome []
      (previewSheet (request.settings loaded) request.paths (found.specs.map PartitionSpec.place)
        found.batches) := by
  have hsheet := shows_showPreview console hfields found
  rw [Preview.paths_of_make h] at hsheet
  rw [preview_eq hbase, h, orDie, pure_bind]
  exact hsheet []

-- A failure ends the command with code 1. An error of the library's own is printed, and all others
-- come through.
theorem run_preview_of_error (hbase : (request.settings loaded).basePath ≠ "")
    (h : Preview.make world.registry (request.settings loaded) request.paths = .error failure) :
    let shown := run console (preview world loaded request)
    let complaint := Output.complaint failure.message
    shown.code = 1 ∧
      (failure.isOwn = true → console.obstacle? complaint = none →
        shown = { code := 1, printed := [complaint] }) ∧
      (failure.isOwn = false → shown = { code := 1, printed := [], failure := some failure }) := by
  intro shown complaint
  have hshown : shown = run console
      (orDie isOwnFailure 1 (.error failure) >>= showPreview (request.settings loaded)) := by
    rw [← h, ← preview_eq hbase]
  rw [run, perform_bind] at hshown
  cases hown : failure.isOwn with
  | true =>
      rw [orDie, isOwnFailure, hown, if_pos rfl, die, perform_bind, perform_print] at hshown
      cases hobstacle : console.obstacle? complaint with
      | none =>
          rw [hobstacle] at hshown
          exact ⟨congrArg Outcome.code hshown, fun _ _ => hshown, nofun⟩
      | some other =>
          rw [hobstacle] at hshown
          exact ⟨congrArg Outcome.code hshown, nofun, nofun⟩
  | false =>
      rw [orDie, isOwnFailure, hown] at hshown
      exact ⟨congrArg Outcome.code hshown, nofun, fun _ => hshown⟩

end Preview

-- A preview shows what an addition would do, for settings with a base path and partition fields and
-- a table with these fields as its keys: a row for every partition that is sent, and in how many
-- batches, or the same failure, in the same order of checks.
theorem preview_shows_addition {σ : Type} (console : Console) (world : World) (loaded : Settings)
    (request : PreviewRequest) (hbase : (request.settings loaded).basePath ≠ "")
    (hfields : (request.settings loaded).partitionFields ≠ []) (hpaths : request.paths ≠ [])
    (client : Client σ) (translator : Option Translator) (user : Except Failure String)
    (table : String) (session : Session σ) (entry : Table)
    (hentry : (client.answer (.getTable (request.settings loaded).databaseName table)
      session.catalog).1 = .ok entry)
    (hkeys : entry.partitionKeys.map Column.name = (request.settings loaded).partitionFields)
    (hcalls : ∀ batches : List (List Partition), client.Accepts (batches.map Executor.sending)
      (client.answer (.getTable (request.settings loaded).databaseName table)
        session.catalog).2) :
    let settings := request.settings loaded
    let found := Preview.make world.registry settings request.paths
    let shown := run console (preview world loaded request)
    let added := Executor.synchronise world.registry settings client translator user table
      request.paths session
    ((∃ preview, found = .ok preview) ↔ ∃ done, added.1 = .ok done) ∧
    (∀ preview, found = .ok preview →
      ∃ done, ∃ batches : List (List Partition), added.1 = .ok done ∧
        added.2.calls = session.calls ++
          .getTable settings.databaseName table :: batches.map Executor.sending ∧
        batches.flatten.map Partition.place = preview.specs.map PartitionSpec.place ∧
        done.batches = preview.batches ∧
        shown = console.outcome [] (previewSheet settings request.paths
          (batches.flatten.map Partition.place) done.batches)) ∧
    (∀ failure, found = .error failure →
      Preview.Obstacle world.registry settings request.paths failure ∧
      added.1 = .error failure ∧
      (∃ calls, added.2.calls = session.calls ++ calls ∧
        calls ⊆ [.getTable settings.databaseName table]) ∧
      shown.code = 1 ∧
      (failure.isOwn = true → console.obstacle? (.complaint failure.message) = none →
        shown = { code := 1, printed := [.complaint failure.message] }) ∧
      (failure.isOwn = false →
        shown = { code := 1, printed := [], failure := some failure })) := by
  intro settings found shown added
  have hsends : ∀ preview, found = .ok preview → ∃ done, ∃ batches : List (List Partition),
      added.1 = .ok done ∧
        added.2.calls = session.calls ++
          .getTable settings.databaseName table :: batches.map Executor.sending ∧
        batches.flatten.map Partition.place = preview.specs.map PartitionSpec.place ∧
        done.batches = preview.batches :=
    fun preview h => Executor.synchronise_of_preview hfields hpaths hentry hkeys hcalls h
  have hfails : ∀ failure, found = .error failure → added.1 = .error failure ∧ ∃ calls,
      added.2.calls = session.calls ++ calls ∧
        calls ⊆ [.getTable settings.databaseName table] :=
    fun failure h => Executor.synchronise_of_obstacle hfields hpaths hentry hkeys h
  refine ⟨⟨fun ⟨preview, h⟩ => ?_, fun ⟨done, hdone⟩ => ?_⟩, fun preview h => ?_,
    fun failure h => ?_⟩
  · obtain ⟨done, -, hdone, -⟩ := hsends preview h
    exact ⟨done, hdone⟩
  · cases h : found with
    | ok preview => exact ⟨preview, rfl⟩
    | error failure => exact nomatch (hfails failure h).1.symm.trans hdone
  · obtain ⟨done, batches, hdone, hmade, hsent, hcount⟩ := hsends preview h
    have hshown := run_preview_of_found console hbase hfields h
    rw [← hsent, ← hcount] at hshown
    exact ⟨done, batches, hdone, hmade, hsent, hcount, hshown⟩
  · obtain ⟨hr, hc⟩ := hfails failure h
    exact ⟨Preview.obstacle_of_make h, hr, hc, run_preview_of_error console hbase h⟩

-- A place without files, where only the built-in extractors are known.
def bareWorld : World where
  environment := fun _ => none
  files := fun _ => .missing
  dataFile := fun _ => .unreadable ""
  registry := .initial []

-- Three days in two batches, and a day without a value, on a console that prints everything.
theorem preview_shows_addition_daily :
    let loaded : Settings := { partitionFields := ["day"], partitionExtractor := "hive_style" }
    let request (paths : List String) : PreviewRequest :=
      { paths, basePath := some "s3://lake/sales", batchSize := some 2 }
    let session : Session Store := { catalog := Executor.dailyStore }
    let shown paths := run ⟨fun _ => none⟩ (preview bareWorld loaded (request paths))
    let added paths := Executor.synchronise bareWorld.registry ((request paths).settings loaded)
      Store.client none (.ok "keeper") "sales" paths session
    (∃ done, (added ["day=1", "day=2", "day=3"]).1 = .ok done ∧ done.batches = 2 ∧
      shown ["day=1", "day=2", "day=3"] = {
        code := 0
        printed := [.heading "Partitions",
          .remark "Base path: s3://lake/sales | Extractor: hive_style",
          .table "Partitions" ["Partition", "Values", "Location"]
            [["day=1", "day=1", "s3://lake/sales/day=1"],
              ["day=2", "day=2", "s3://lake/sales/day=2"],
              ["day=3", "day=3", "s3://lake/sales/day=3"]],
          .remark "Partitions: 3 | Add batches: 2 (batch size 2)"] }) ∧
    ∃ failure, (added ["day=1", "day="]).1 = .error failure ∧
      shown ["day=1", "day="] = { code := 1, printed := [.complaint failure.message] } := by
  intro loaded request session shown added
  have hentry : (Store.client.answer (.getTable loaded.databaseName "sales")
      session.catalog).1 = .ok Executor.dailyTable :=
    congrArg Prod.fst (Store.answer_getTable (by decide +kernel))
  have hcases := fun paths hbase hfields hpaths => preview_shows_addition ⟨fun _ => none⟩ bareWorld
    loaded (request paths) hbase hfields hpaths Store.client none (.ok "keeper") "sales" session
    Executor.dailyTable hentry rfl (fun batches => Store.accepts_addPartitions batches _)
  have hmade : Preview.make bareWorld.registry ((request ["day=1", "day=2", "day=3"]).settings
      loaded) ["day=1", "day=2", "day=3"] = .ok ⟨["1", "2", "3"].map Executor.dailySpec, 2⟩ :=
    Traversal.eq_ok_of_toOption (by decide +kernel)
  have hrefused : (Traversal.error? (Preview.make bareWorld.registry
      ((request ["day=1", "day="]).settings loaded) ["day=1", "day="])).any Failure.isOwn := by
    decide +kernel
  with_reducible refine ⟨?_, ?_⟩
  · have hfits := hcases ["day=1", "day=2", "day=3"] (by decide +kernel) (by decide +kernel)
      (by decide)
    with_reducible obtain ⟨done, batches, hdone, -, hsent, hcount, hshown⟩ := hfits.2.1 _ hmade
    with_reducible refine ⟨done, hdone, hcount, hshown.trans ?_⟩
    rw [hsent, hcount, Console.outcome_previewSheet (fun _ => rfl) (by decide +kernel)]
    exact congrArg (Outcome.mk 0 · false none) (by decide +kernel)
  · obtain ⟨failure, herror, hown⟩ := (Option.any_eq_true _ _).mp hrefused
    have hfails := hcases ["day=1", "day="] (by decide +kernel) (by decide +kernel) (by decide)
    have hmake := Traversal.error?_eq_some_iff.mp herror
    with_reducible obtain ⟨-, hr, -, -, hprinted, -⟩ := hfails.2.2 failure hmake
    with_reducible exact ⟨failure, hr, hprinted hown rfl⟩

end CatalogSync.Command
