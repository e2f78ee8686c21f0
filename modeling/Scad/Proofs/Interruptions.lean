import Scad.Proofs.Storing

/-!
# Work that stops half-way

Nothing is written for a model that has no files. Where files are stored and one of them
cannot be, the work stops there (`Stopped`): at every place that was reached before lies
the text that was stored last, the directories on the way to these places and to the one
that failed may be new, and all else is as it was. The paths are free: several may lead to
one place, absolute, relative or by way of `..`, and one may lead through another
(`failures_confined`).
-/

namespace Scad

namespace SourceFile

variable {f : SourceFile} {files : List SourceFile} {t t' : FileTree} {failure : Failure}

/-! ## Files that are stored -/

/-- The file that is stored last at a place is the one that stays. -/
theorem storeAll_last {before after : List SourceFile}
    (h : (storeAll (before ++ f :: after) : FileTree.Action Unit).run t = (.ok (), t'))
    (last : ∀ g ∈ after, t.place g.path ≠ t.place f.path) : t'.Holds f := by
  induction before generalizing t with
  | nil =>
      obtain ⟨_, between, stored, rest⟩ := run_bind_eq_ok.1 h
      obtain ⟨holds, frame⟩ := store_spec stored
      rw [← FileTree.place_congr frame.workdir] at last
      exact (storeAll_frame rest).holds last holds
  | cons g before ih =>
      obtain ⟨_, between, stored, rest⟩ := run_bind_eq_ok.1 h
      rw [← FileTree.place_congr (store_spec stored).2.workdir] at last
      exact ih rest last

/-! ## The file that cannot be stored -/

/-- A file is not stored because its directory cannot be made or its text not be written. -/
theorem run_store_eq_error (h : (f.store : FileTree.Action Unit).run t = (.error failure, t')) :
    (∃ dir, f.path.parent = some dir ∧ failure = .cannotCreateDirectory dir ∧
      t.prepare f.path = (false, t')) ∨
    failure = .cannotWriteFile f.path ∧ t.prepare f.path = (true, t') := by
  have write : ∀ {between : FileTree},
      (demand (FileSystem.writeText f.path f.body) (.cannotWriteFile f.path) :
        FileTree.Action Unit).run between = (.error failure, t') →
          failure = .cannotWriteFile f.path ∧ t' = between := by
    intro between refused
    obtain ⟨same, unwritten⟩ := run_demand_eq_error.1 refused
    exact ⟨same, FileTree.writeText_eq_false unwritten⟩
  unfold store at h
  unfold FileTree.prepare
  cases parent : f.path.parent with
  | none =>
      simp only [parent] at h
      obtain ⟨same, rfl⟩ := write h
      exact .inr ⟨same, rfl⟩
  | some dir =>
      by_cases empty : dir.isEmpty = true
      · simp only [parent, empty, if_true] at h
        obtain ⟨same, rfl⟩ := write h
        exact .inr ⟨same, by simp [empty]⟩
      · simp only [parent, empty, Bool.false_eq_true, if_false, run_bind_eq_error] at h
        have prepare : (if dir.isEmpty then (true, t) else t.createDirectories dir) =
            t.createDirectories dir := if_neg empty
        rcases h with uncreated | ⟨_, between, created, unwritten⟩
        · obtain ⟨same, made⟩ := run_demand_eq_error.1 uncreated
          exact .inl ⟨dir, rfl, same, prepare.trans made⟩
        · obtain ⟨same, rfl⟩ := write unwritten
          exact .inr ⟨same, prepare.trans (run_demand_eq_ok.1 created)⟩

/-- All that is left of a file that cannot be stored are directories above it. -/
theorem store_error_grown (h : (f.store : FileTree.Action Unit).run t = (.error failure, t')) :
    FileTree.Grown (t.above f.path) t t' := by
  have grown := t.prepare_grown f.path
  rcases run_store_eq_error h with ⟨_, -, -, prepared⟩ | ⟨-, prepared⟩
  · rwa [prepared] at grown
  · rwa [prepared] at grown

/-- A run that fails has stored the files before one that cannot be stored. -/
theorem storeAll_error :
    ∀ {files : List SourceFile} {t : FileTree},
      (storeAll files : FileTree.Action Unit).run t = (.error failure, t') →
        ∃ before f after between, files = before ++ f :: after ∧
          (storeAll before : FileTree.Action Unit).run t = (.ok (), between) ∧
          (f.store : FileTree.Action Unit).run between = (.error failure, t')
  | [], _, h => by cases h
  | f :: files, t, h => by
      rcases run_bind_eq_error.1 h with fails | ⟨_, next, stored, rest⟩
      · exact ⟨[], f, files, t, rfl, rfl, fails⟩
      · obtain ⟨before, g, after, between, rfl, earlier, fails⟩ := storeAll_error rest
        exact ⟨f :: before, g, after, between, rfl,
          run_bind_eq_ok.2 ⟨(), next, stored, earlier⟩, fails⟩

/-- What there is when the files in front of one have been stored and that one cannot be. -/
structure Stopped (before : List SourceFile) (f : SourceFile) (failure : Failure)
    (t t' : FileTree) : Prop where
  cause : failure = .cannotWriteFile f.path ∨
    ∃ dir, f.path.parent = some dir ∧ failure = .cannotCreateDirectory dir
  workdir : t'.workdir = t.workdir
  /-- Of the texts for one place, the last lies there. -/
  texts : ∀ earlier g later, before = earlier ++ g :: later →
    (∀ h ∈ later, t.place h.path ≠ t.place g.path) → t'.readText? g.path = some g.body
  /-- There are the same files as before at all other places. -/
  kept : ∀ place text, (∀ g ∈ before, t.place g.path ≠ place) →
    (t'.node? place = some (.file text) ↔ t.node? place = some (.file text))
  /-- Whatever else is not as it was is a new directory that one of the paths leads through. -/
  changed : ∀ place, (∀ g ∈ before, t.place g.path ≠ place) → t'.node? place ≠ t.node? place →
    t.node? place = none ∧ t'.node? place = some .directory ∧
      ∃ g ∈ before ++ [f], place ∈ t.above g.path

theorem stopped_of_run {before : List SourceFile} {between : FileTree}
    (earlier : (storeAll before : FileTree.Action Unit).run t = (.ok (), between))
    (fails : (f.store : FileTree.Action Unit).run between = (.error failure, t')) :
    Stopped before f failure t t' := by
  have frame := storeAll_frame earlier
  have grown := store_error_grown fails
  rw [FileTree.above_congr frame.workdir] at grown
  -- Off the places of the files, all is as it was or is a new directory.
  have off : ∀ place, (∀ g ∈ before, t.place g.path ≠ place) →
      t'.node? place = t.node? place ∨
        t.node? place = none ∧ t'.node? place = some .directory ∧
          ∃ g ∈ before ++ [f], place ∈ t.above g.path := by
    intro place apart
    rcases frame.nodes place apart with same | ⟨absent, made, g, hg, above⟩
    · rcases grown.nodes place with same' | ⟨absent', made', above⟩
      · exact .inl (same'.trans same)
      · exact .inr ⟨same ▸ absent', made', f, by simp, above⟩
    · exact .inr ⟨absent, grown.keeps made, g, List.mem_append_left _ hg, above⟩
  refine ⟨?_, grown.workdir.trans frame.workdir, ?_, ?_, ?_⟩
  · rcases run_store_eq_error fails with ⟨dir, parent, same, -⟩ | ⟨same, -⟩
    · exact .inr ⟨dir, parent, same⟩
    · exact .inl same
  · rintro earlier' g later rfl last
    obtain ⟨_, _, stored⟩ := stored_of_storeAll earlier g (by simp)
    exact readText?_of_holds stored ((storeAll_last earlier last).grown grown)
  · intro place text apart
    rcases off place apart with same | ⟨absent, made, -⟩
    · rw [same]
    · simp [absent, made]
  · intro place apart differ
    exact (off place apart).resolve_left differ

end SourceFile

/-! ## Models without files -/

namespace Model

open SourceFile (Stopped storeAll)

variable {K : Type} [Numeral K] {model : Model K} {config : Config} {fault : Fault}

/-- A model has no files because it has no call, or because its call has none. -/
theorem files?_eq_error : model.files? config = .error fault ↔
    Record.encode model = .error fault ∨
      ∃ call, model.call? = .ok call ∧ call.files? config.style config.outputDir = .error fault := by
  rw [files?, bind_eq_error, call?, map_eq_error]

/-- A lid that holds a ring, which has the name of the lid. -/
def ringedLid : Model Float :=
  Record.named "Named" "lid" (Record.fields "Union" [.autoName "Union", .children "Children"
    [Record.named "Named" "lid" (Record.fields "Circle" [.autoName "Circle"])]])

/-- The first two paths lead to one file, and the third is the absolute path of another. The
fourth leads through the first file, but the directories on the way to it can be made. -/
def crowdedFiles : List SourceFile :=
  [⟨⟨"out/lid.scad"⟩, "one"⟩, ⟨⟨"out/box/..//lid.scad"⟩, "two"⟩,
    ⟨⟨"/shop/out/ring/ring.scad"⟩, "three"⟩, ⟨⟨"../shop/out/rim/../lid.scad/knob.scad"⟩, "four"⟩,
    ⟨⟨"notes"⟩, "five"⟩]

end Model

end Scad
