import CatalogSync.Proofs.Sync.Convergence
import CatalogSync.Proofs.Sync.Evolution

namespace CatalogSync

namespace CommentUpdate

-- Whether an update is a comment, or a sequence that has a last part.
def IsMeaningful : CommentUpdate → Prop
  | comment _ => True
  | parts all => all ≠ []
  | other => False

instance : DecidablePred IsMeaningful
  | comment _ => inferInstanceAs (Decidable True)
  | parts all => inferInstanceAs (Decidable (all ≠ []))
  | other => inferInstanceAs (Decidable False)

-- The comment that an update stands for.
def asked : CommentUpdate → String
  | comment text => text
  | parts all => (all.getLast?.bind id).getD ""
  | other => ""

theorem text_eq_ok_iff {update : CommentUpdate} {comment : String} :
    update.text = .ok comment ↔ update.IsMeaningful ∧ update.asked = comment := by
  cases update with
  | comment given => simp [CommentUpdate.text, IsMeaningful, asked]
  | parts all =>
      cases hlast : all.getLast? with
      | none =>
          obtain rfl := List.getLast?_eq_none_iff.mp hlast
          simp [CommentUpdate.text, IsMeaningful]
      | some part =>
          have hall : all ≠ [] := by
            rintro rfl
            cases hlast
          simp [CommentUpdate.text, IsMeaningful, asked, hlast, hall]
  | other => simp [CommentUpdate.text, IsMeaningful]

end CommentUpdate

namespace Column

variable (first second updates : Dictionary String CommentUpdate) (column : Column)

-- The column with the comment that the updates have for its name, if they have one.
def commented : Column :=
  { column with
    comment := ((updates.get? column.name).map CommentUpdate.asked).getD column.comment }

-- Updates after others are updates of which the later ones count.
theorem commented_commented :
    (column.commented first).commented second =
      column.commented (first.insertAll second.entries) := by
  simp only [commented, Dictionary.get?_insertAll_entries]
  cases second.get? column.name <;> rfl

theorem commented_congr {updates others : Dictionary String CommentUpdate} {column : Column}
    (h : updates.get? column.name = others.get? column.name) :
    column.commented updates = column.commented others := by
  rw [commented, commented, h]

theorem commented_commented_self :
    (column.commented updates).commented updates = column.commented updates := by
  rw [commented_commented]
  apply commented_congr
  rw [Dictionary.get?_insertAll_entries, Option.or_self]

-- Updates that do not both name the column may change places.
theorem commented_comm
    (h : first.contains column.name = false ∨ second.contains column.name = false) :
    (column.commented first).commented second = (column.commented second).commented first := by
  rw [commented_commented, commented_commented]
  apply commented_congr
  rw [Dictionary.get?_insertAll_entries, Dictionary.get?_insertAll_entries]
  simp only [Dictionary.contains_eq_false_iff] at h
  rcases h with h | h <;> rw [h, Option.none_or, Option.or_none]

end Column

theorem applyComment_eq_ok_iff {updates : Dictionary String CommentUpdate}
    {column changed : Column} :
    applyComment updates column = .ok changed ↔
      (∀ update, updates.get? column.name = some update → update.IsMeaningful) ∧
        column.commented updates = changed := by
  unfold applyComment Column.commented
  cases updates.get? column.name with
  | none => simp
  | some update =>
      simp [Traversal.map_eq_ok_iff, CommentUpdate.text_eq_ok_iff, Column.withComment, and_assoc]

theorem mapM_applyComment_ok {updates : Dictionary String CommentUpdate}
    {columns changed : List Column} (h : columns.mapM (applyComment updates) = .ok changed) :
    columns.map (Column.commented updates) = changed := by
  have heach : ∀ column ∈ columns,
      applyComment updates column = .ok (column.commented updates) := by
    intro column hcolumn
    obtain ⟨value, hvalue⟩ := Traversal.exists_mapM_ok_iff.mp ⟨changed, h⟩ column hcolumn
    rw [hvalue, (applyComment_eq_ok_iff.mp hvalue).2]
  exact Except.ok.inj ((Traversal.mapM_ok_of_forall heach).symm.trans h)

theorem mapM_applyComment {updates : Dictionary String CommentUpdate}
    (hupdates : ∀ update ∈ updates.values, update.IsMeaningful) (columns : List Column) :
    columns.mapM (applyComment updates) = .ok (columns.map (Column.commented updates)) := by
  refine Traversal.mapM_ok_of_forall fun column _ => applyComment_eq_ok_iff.mpr ⟨?_, rfl⟩
  intro update hupdate
  exact hupdates update ((Dictionary.mem_values_iff _ _).mpr ⟨column.name, hupdate⟩)

namespace Executor

variable {ρ : Type}

-- The catalog with a change made to every column of a table.
def withEachColumn (executor : Executor ρ) (store : Store) (name : String) (entry : Table)
    (change : Column → Column) : Store :=
  { store with
    tables := store.tables.insert (executor.tableKey name)
      (entry.withColumns (entry.layout.columns.map change)) }

theorem withEachColumn_congr (executor : Executor ρ) (store : Store) (name : String)
    {entry : Table} {first second : Column → Column}
    (h : ∀ column ∈ entry.layout.columns, first column = second column) :
    executor.withEachColumn store name entry first =
      executor.withEachColumn store name entry second := by
  rw [withEachColumn, withEachColumn, List.map_congr_left h]

theorem withEachColumn_withEachColumn (executor : Executor ρ) (store : Store) (name : String)
    (entry : Table) (first second : Column → Column) :
    executor.withEachColumn (executor.withEachColumn store name entry first) name
        (entry.withColumns (entry.layout.columns.map first)) second =
      executor.withEachColumn store name entry (second ∘ first) := by
  have hcolumns : (entry.withColumns (entry.layout.columns.map first)).layout.columns.map second =
      entry.layout.columns.map (second ∘ first) := List.map_map
  simp only [withEachColumn, Dictionary.insert_insert, hcolumns]
  rfl

section Uninterrupted

variable {executor : Executor Store} (hclient : executor.client = some Store.client)
  {name : String} {session : Session Store} {entry : Table}
  (hentry : session.catalog.tables.get? (executor.tableKey name) = some entry)
  {first second updates : Dictionary String CommentUpdate}

include hclient hentry

theorem updateComments_meaningful (hupdates : ∀ update ∈ updates.values, update.IsMeaningful) :
    ((executor.updateComments name updates).perform session).1 = .ok () ∧
      ((executor.updateComments name updates).perform session).2.catalog =
        executor.withEachColumn session.catalog name entry (Column.commented updates) :=
  updateComments_uninterrupted hclient hentry (mapM_applyComment hupdates entry.layout.columns)

theorem updateComments_twice (hfirst : ∀ update ∈ first.values, update.IsMeaningful)
    (hsecond : ∀ update ∈ second.values, update.IsMeaningful) :
    let changed := (executor.updateComments name first).perform session
    let last := (executor.updateComments name second).perform changed.2
    last.1 = .ok () ∧ last.2.catalog = executor.withEachColumn session.catalog name entry
      (Column.commented second ∘ Column.commented first) := by
  intro changed last
  obtain ⟨-, hchanged⟩ := updateComments_meaningful hclient hentry hfirst
  have hentry : changed.2.catalog.tables.get? (executor.tableKey name) =
      some (entry.withColumns (entry.layout.columns.map (Column.commented first))) := by
    rw [hchanged, withEachColumn, Dictionary.get?_insert, if_pos rfl]
  obtain ⟨hlast, hcatalog⟩ := updateComments_meaningful hclient hentry hsecond
  refine ⟨hlast, hcatalog.trans ?_⟩
  rw [hchanged, withEachColumn_withEachColumn]

end Uninterrupted

-- However the catalog's client goes about its calls, an update of comments that succeeds changes
-- comments of a table's columns and nothing else. Where no call fails, an update after another one
-- does what a single one does in which the later comments count; so doing an update again changes
-- nothing, and two updates without a column in common may change places.
theorem updateComments_composes (executor : Executor ρ) (name : String) (store : Store)
    (entry : Table) (hentry : store.tables.get? (executor.tableKey name) = some entry) :
    (∀ (σ : Type) (client : Client σ) (view : σ → Store), client.Serves view →
      ∀ (session : Session σ) (updates : Dictionary String CommentUpdate),
        view session.catalog = store →
        let outcome := ((executor.withClient client).updateComments name updates).perform session
        outcome.1 = .ok () →
          executor.Rewrites name entry (entry.layout.columns.map (Column.commented updates)) store
            (view outcome.2.catalog) ∧
          (view outcome.2.catalog).partitions = store.partitions) ∧
    ∀ (session : Session Store) (first second : Dictionary String CommentUpdate),
      session.catalog = store → (∀ update ∈ first.values, update.IsMeaningful) →
      (∀ update ∈ second.values, update.IsMeaningful) →
      let update := fun updates (session : Session Store) =>
        ((executor.withClient Store.client).updateComments name updates).perform session
      let changed := update first session
      let last := update second changed.2
      let single := update (first.insertAll second.entries) session
      changed.1 = .ok () ∧ last.1 = .ok () ∧ single.1 = .ok () ∧
        last.2.catalog = single.2.catalog ∧
        (update first changed.2).2.catalog = changed.2.catalog ∧
        ((∀ column ∈ entry.layout.columns,
            first.contains column.name = false ∨ second.contains column.name = false) →
          (update first (update second session).2).2.catalog = last.2.catalog) := by
  refine ⟨?_, ?_⟩
  · rintro σ client view hserves session updates rfl outcome hok
    obtain ⟨found, columns, hfound, hcolumns, hafter⟩ := updateComments_ok rfl hserves hok
    obtain rfl : found = entry := Option.some.inj (hfound.symm.trans hentry)
    obtain rfl := mapM_applyComment_ok hcolumns
    rw [hafter]
    exact ⟨rewrites_insert hentry _ _ rfl, rfl⟩
  · rintro session first second rfl hfirst hsecond update changed last single
    have hmerged : ∀ update ∈ (first.insertAll second.entries).values, update.IsMeaningful := by
      intro update hupdate
      obtain ⟨name, hname⟩ := (Dictionary.mem_values_iff _ _).mp hupdate
      rw [Dictionary.get?_insertAll_entries, Option.or_eq_some_iff] at hname
      rcases hname with hname | ⟨-, hname⟩
      · exact hsecond update ((Dictionary.mem_values_iff _ _).mpr ⟨name, hname⟩)
      · exact hfirst update ((Dictionary.mem_values_iff _ _).mpr ⟨name, hname⟩)
    have hclient : (executor.withClient Store.client).client = some Store.client := rfl
    obtain ⟨hok, hchanged⟩ := updateComments_meaningful hclient hentry hfirst
    obtain ⟨hlast, hboth⟩ := updateComments_twice hclient hentry hfirst hsecond
    obtain ⟨hsingle, honce⟩ := updateComments_meaningful hclient hentry hmerged
    refine ⟨hok, hlast, hsingle, ?_, ?_, fun hdisjoint => ?_⟩
    · rw [hboth, honce]
      refine executor.withEachColumn_congr _ _ fun column _ => ?_
      exact column.commented_commented first second
    · obtain ⟨-, htwice⟩ := updateComments_twice hclient hentry hfirst hfirst
      rw [htwice, hchanged]
      refine executor.withEachColumn_congr _ _ fun column _ => ?_
      exact column.commented_commented_self first
    · obtain ⟨-, hswapped⟩ := updateComments_twice hclient hentry hsecond hfirst
      rw [hswapped, hboth]
      refine executor.withEachColumn_congr _ _ fun column hcolumn => ?_
      exact column.commented_comm second first (hdisjoint column hcolumn).symm

-- Two columns with one name, and a partition key that both updates name.
theorem updateComments_composes_daily :
    let executor := daily Store.client 0
    let columns : List Column := [
      { name := "id", type := "int", comment := "old" }, { name := "amount", type := "double" },
      { name := "id", type := "bigint" }]
    let entry := dailyTable.withColumns columns
    let session : Session Store :=
      { catalog := { dailyStore with tables := .ofList [(⟨"default", "sales"⟩, entry)] } }
    let first := Dictionary.ofList [
      ("id", CommentUpdate.parts [none, some "key"]), ("day", .comment "of sale")]
    let second := Dictionary.ofList [
      ("day", CommentUpdate.comment "of payment"), ("amount", .comment "in euros")]
    let update := fun updates (session : Session Store) =>
      ((executor.withClient Store.client).updateComments "sales" updates).perform session
    let changed := update first session
    let last := update second changed.2
    executor.Rewrites "sales" entry (columns.map (Column.commented first)) session.catalog
        changed.2.catalog ∧
      last.2.catalog = (update (first.insertAll second.entries) session).2.catalog ∧
      (update first (update second session).2).2.catalog = last.2.catalog ∧
      last.2.catalog.tables.values.map (·.layout.columns.map Column.comment) =
        [["key", "in euros", "key"]] ∧
      last.2.catalog.tables.values.map Table.partitionKeys = [dailyTable.partitionKeys] := by
  intro executor columns entry session first second update changed last
  have h := executor.updateComments_composes "sales" session.catalog entry (by decide +kernel)
  obtain ⟨hok, -, -, hsingle, -, hswapped⟩ :=
    h.2 session first second rfl (by decide +kernel) (by decide +kernel)
  have hrewrites := h.1 Store Store.client id Client.serves_store session first rfl hok
  exact ⟨hrewrites.1, hsingle, hswapped (by decide +kernel), by decide +kernel, by decide +kernel⟩

end Executor

end CatalogSync
