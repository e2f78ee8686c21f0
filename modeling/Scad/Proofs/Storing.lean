import Scad.Generation
import Scad.Proofs.Actions
import Scad.Proofs.Directories
import Scad.Proofs.Placement

/-!
# Storing the files of a model

A file is stored by making the directories above it and writing its text. In the tree
that comes out, the file is there below directories (`FileTree.Holds`), and besides it
only directories above it are new (`FileTree.Frame`). Later files of the same model
leave that alone, because no directory is ever lost and no two rendered paths lead to
one place. So the tree holds what was rendered and nothing else has changed
(`generate_written`), and to generate the model again changes nothing at all.
-/

namespace Scad

/-! ## One file -/

namespace FileTree

/-- The file is there, below directories. -/
structure Holds (t : FileTree) (f : SourceFile) : Prop where
  way : t.IsWay (t.above f.path)
  text : t.node? (t.place f.path) = some (.file f.body)

/-- From one tree to the other, nothing has changed but the given files and that places
above them have come to be directories. -/
structure Frame (files : List SourceFile) (t t' : FileTree) : Prop extends Stays t t' where
  nodes : ∀ place, (∀ f ∈ files, t.place f.path ≠ place) → t'.node? place = t.node? place ∨
    t.node? place = none ∧ t'.node? place = some .directory ∧ ∃ f ∈ files, place ∈ t.above f.path

variable {t t' t'' : FileTree} {f : SourceFile} {files : List SourceFile}

/-- A file is there still if its text is. -/
theorem Holds.stays (there : t.Holds f) (h : Stays t t')
    (text : t'.node? (t.place f.path) = some (.file f.body)) : t'.Holds f where
  way := h.isWay_above there.way
  text := by rwa [place_congr h.workdir]

theorem Holds.grown {way : List Place} (there : t.Holds f) (h : Grown way t t') : t'.Holds f :=
  there.stays h.stays (h.keeps there.text)

namespace Frame

theorem nil (t : FileTree) : Frame [] t t := ⟨⟨rfl, fun _ => id⟩, fun _ _ => .inl rfl⟩

theorem keeps (h : Frame files t t') {place : Place} {n : Node}
    (apart : ∀ f ∈ files, t.place f.path ≠ place) (found : t.node? place = some n) :
    t'.node? place = some n := by
  rcases h.nodes place apart with same | ⟨none, -⟩
  · rw [same, found]
  · rw [found] at none
    contradiction

/-- A file is there still if no other is put in its place. -/
theorem holds (h : Frame files t t') (apart : ∀ g ∈ files, t.place g.path ≠ t.place f.path)
    (there : t.Holds f) : t'.Holds f := there.stays h.toStays (h.keeps apart there.text)

theorem cons (h : Frame [f] t t') (h' : Frame files t' t'') : Frame (f :: files) t t'' where
  toStays := h.toStays.trans h'.toStays
  nodes place apart := by
    obtain ⟨first, others⟩ := List.forall_mem_cons.1 apart
    have later := h'.nodes place
    rw [place_congr h.workdir, above_congr h.workdir] at later
    have now := h.nodes place (by simpa using first)
    rcases later others with same' | ⟨absent', made', g, hg, mem⟩
    · rw [same']
      refine now.imp_right ?_
      rintro ⟨absent, made, g, hg, mem⟩
      rw [List.mem_singleton.1 hg] at mem
      exact ⟨absent, made, f, List.mem_cons_self, mem⟩
    · rcases now with same | ⟨-, made, -⟩
      · exact .inr ⟨same ▸ absent', made', g, List.mem_cons_of_mem _ hg, mem⟩
      · rw [made] at absent'
        contradiction

end Frame

end FileTree

namespace SourceFile

variable {f : SourceFile} {files : List SourceFile} {t t' t₀ t₀' : FileTree}

theorem run_store_eq_ok : (f.store : FileTree.Action Unit).run t = (.ok (), t') ↔
    ∃ between, t.prepare f.path = (true, between) ∧
      between.writeText f.path f.body = (true, t') := by
  have write : ∀ between : FileTree,
      (demand (FileSystem.writeText f.path f.body) (.cannotWriteFile f.path) :
        FileTree.Action Unit).run between = (.ok (), t') ↔
          between.writeText f.path f.body = (true, t') := fun between => run_demand_eq_ok
  unfold store FileTree.prepare
  cases f.path.parent with
  | none => simp [write]
  | some dir =>
      by_cases empty : dir.isEmpty = true
      · simp [empty, write]
      · simp only [empty, Bool.false_eq_true, if_false, run_bind_eq_ok, write]
        constructor
        · rintro ⟨_, between, made, written⟩
          exact ⟨between, run_demand_eq_ok.1 made, written⟩
        · rintro ⟨between, made, written⟩
          exact ⟨(), between, run_demand_eq_ok.2 made, written⟩

/-- What comes of storing a file. -/
theorem store_spec (h : (f.store : FileTree.Action Unit).run t = (.ok (), t')) :
    t'.Holds f ∧ FileTree.Frame [f] t t' := by
  obtain ⟨between, prepared, written⟩ := run_store_eq_ok.1 h
  have grown : FileTree.Grown (t.above f.path) t between := by
    simpa [prepared] using t.prepare_grown f.path
  obtain ⟨-, way, -⟩ := FileTree.writeText_eq_true.1 written
  obtain ⟨stays, node?⟩ := FileTree.writeText_spec written
  have text : t'.node? (between.place f.path) = some (.file f.body) := by rw [node?, if_pos rfl]
  refine ⟨⟨stays.isWay_above way, ?_⟩, grown.stays.trans stays, ?_⟩
  · rwa [FileTree.place_congr stays.workdir]
  · intro place apart
    have other : place ≠ between.place f.path := by
      rw [FileTree.place_congr grown.workdir]
      exact (apart f List.mem_cons_self).symm
    rw [node?, if_neg other]
    refine (grown.nodes place).imp_right ?_
    rintro ⟨absent, made, mem⟩
    exact ⟨absent, made, f, List.mem_cons_self, mem⟩

/-- A file that is there already is stored again without a change. -/
theorem store_of_holds (h : (f.store : FileTree.Action Unit).run t₀ = (.ok (), t₀'))
    (holds : t.Holds f) : (f.store : FileTree.Action Unit).run t = (.ok (), t) := by
  obtain ⟨between, prepared, written⟩ := run_store_eq_ok.1 h
  obtain ⟨writable, -⟩ := FileTree.writeText_eq_true.1 written
  refine run_store_eq_ok.2 ⟨t, ?_, ?_⟩
  · exact FileTree.prepare_of_isWay (by rw [prepared]) holds.way
  · exact FileTree.writeText_of_file writable holds.way holds.text

theorem readText?_of_holds (h : (f.store : FileTree.Action Unit).run t₀ = (.ok (), t₀'))
    (holds : t.Holds f) : t.readText? f.path = some f.body := by
  obtain ⟨between, -, written⟩ := run_store_eq_ok.1 h
  obtain ⟨writable, -⟩ := FileTree.writeText_eq_true.1 written
  exact FileTree.readText?_eq_some.2 ⟨writable.path, writable.file, holds.way, holds.text⟩

/-! ## Many files -/

/-- Whatever the paths, nothing changes but the files and directories above them. -/
theorem storeAll_frame : ∀ {files : List SourceFile} {t t' : FileTree},
    (storeAll files : FileTree.Action Unit).run t = (.ok (), t') → FileTree.Frame files t t'
  | [], t, _, h => by
      cases h
      exact .nil t
  | f :: files, t, t', h => by
      obtain ⟨_, between, stored, rest⟩ := run_bind_eq_ok.1 h
      exact (store_spec stored).2.cons (storeAll_frame rest)

/-- Files whose paths lead to different places are all there in the end. -/
theorem storeAll_holds : ∀ {files : List SourceFile} {t t' : FileTree},
    files.Pairwise (fun f g => t.place f.path ≠ t.place g.path) →
      (storeAll files : FileTree.Action Unit).run t = (.ok (), t') → ∀ f ∈ files, t'.Holds f
  | [], _, _, _, _ => by simp
  | f :: files, t, t', apart, h => by
      obtain ⟨_, between, stored, rest⟩ := run_bind_eq_ok.1 h
      obtain ⟨first, others⟩ := List.pairwise_cons.1 apart
      obtain ⟨holds, frame⟩ := store_spec stored
      rw [← FileTree.place_congr frame.workdir] at first others
      refine List.forall_mem_cons.2 ⟨?_, storeAll_holds others rest⟩
      exact (storeAll_frame rest).holds (fun g hg => (first g hg).symm) holds

theorem stored_of_storeAll : ∀ {files : List SourceFile} {t t' : FileTree},
    (storeAll files : FileTree.Action Unit).run t = (.ok (), t') → ∀ f ∈ files,
      ∃ before after, (f.store : FileTree.Action Unit).run before = (.ok (), after)
  | [], _, _, _, _, hf => by contradiction
  | f :: files, t, t', h, g, hg => by
      obtain ⟨_, between, stored, rest⟩ := run_bind_eq_ok.1 h
      rcases List.mem_cons.1 hg with rfl | hg
      · exact ⟨t, between, stored⟩
      · exact stored_of_storeAll rest g hg

theorem storeAll_of_holds (stored : ∀ f ∈ files, ∃ before after,
      (f.store : FileTree.Action Unit).run before = (.ok (), after))
    (holds : ∀ f ∈ files, t.Holds f) :
    (storeAll files : FileTree.Action Unit).run t = (.ok (), t) := by
  induction files with
  | nil => rfl
  | cons f files ih =>
      rw [List.forall_mem_cons] at stored holds
      obtain ⟨before, after, first⟩ := stored.1
      exact run_bind_eq_ok.2 ⟨(), t, store_of_holds first holds.1, ih stored.2 holds.2⟩

end SourceFile

/-! ## The files of a model -/

namespace Entry

theorem up_not_mem_names (e : Entry) : ".." ∉ e.names :=
  fun mem => (harmless_of_mem_names mem).up rfl

/-- The file of an entry lies below the place of the output directory. -/
theorem place_path (t : FileTree) (dir : Path) (e : Entry) :
    t.place (e.path dir) = t.place dir ++ e.names := by
  rw [FileTree.place, FileTree.place, FileTree.start, e.isAbsolute_path, e.names_path_below,
    ← FileTree.start, FileTree.Place.walk, List.foldl_append]
  exact FileTree.Place.walk_of_plain e.up_not_mem_names _

end Entry

namespace Module

variable {m : Module}

/-- No two files of a module lie at one place. -/
theorem Built.pairwise_places (h : m.Built) (indent : String) (dir : Path) (t : FileTree) :
    (m.files indent dir).Pairwise (fun f g => t.place f.path ≠ t.place g.path) := by
  have distinct : (m.entries.map fun e => t.place (e.path dir)).Nodup := by
    apply h.nodup_chains.of_map.map_on
    intro e he e' he' same
    rw [e.place_path, e'.place_path, List.append_cancel_left_eq] at same
    have names : (e.path dir).names = (e'.path dir).names := by
      rw [e.names_path_below, e'.names_path_below, same]
    exact List.inj_on_of_nodup_map h.nodup_chains he he' (Entry.chain_eq_of_names_eq names)
  rw [Module.files_eq]
  exact List.pairwise_map.2 (List.pairwise_map.1 distinct)

/-- No path of a file leads up, but in the output directory. -/
theorem up_not_mem_names {indent : String} {dir : Path} {f : SourceFile}
    (plain : ".." ∉ dir.names) (h : f ∈ m.files indent dir) : ".." ∉ f.path.names := by
  rw [Module.files_eq] at h
  obtain ⟨e, -, rfl⟩ := List.mem_map.1 h
  change ".." ∉ (e.path dir).names
  rw [e.names_path_below, List.mem_append, not_or]
  exact ⟨plain, e.up_not_mem_names⟩

end Module

namespace Model

variable {K : Type} [Numeral K] {model : Model K} {config : Config} {t t' : FileTree}
  {files : List SourceFile}

theorem run_generate_eq_ok :
    (model.generate config : FileTree.Action (List SourceFile)).run t = (.ok files, t') ↔
      model.files? config = .ok files ∧
        (SourceFile.storeAll files : FileTree.Action Unit).run t = (.ok (), t') := by
  unfold generate
  cases model.files? config with
  | error fault =>
      constructor
      · intro h
        cases h
      · rintro ⟨h, -⟩
        cases h
  | ok rendered =>
      simp only [Except.ok.injEq]
      constructor
      · intro h
        obtain ⟨_, between, stored, done⟩ := run_bind_eq_ok.1 h
        cases done
        exact ⟨rfl, stored⟩
      · rintro ⟨rfl, stored⟩
        exact run_bind_eq_ok.2 ⟨(), t', stored, rfl⟩

theorem exists_module_of_files? (h : model.files? config = .ok files) :
    ∃ m : Module, m.Built ∧ files = m.files config.indent config.outputDir := by
  obtain ⟨call, -, rendered⟩ := bind_eq_ok.1 h
  obtain ⟨m, -, built, -, rfl⟩ := Call.exists_module_of_files? rendered
  exact ⟨m, built, rfl⟩

/-- What there is when the files of a model have been generated. -/
structure Written (model : Model K) (config : Config) (t t' : FileTree)
    (files : List SourceFile) : Prop where
  rendered : model.files? config = .ok files
  texts : ∀ f ∈ files, t'.readText? f.path = some f.body
  /-- What was there is there still, but for the files themselves. -/
  kept : ∀ place n, (∀ f ∈ files, t.place f.path ≠ place) → t.node? place = some n →
    t'.node? place = some n
  /-- What else is new is a directory on the way to one of the files, and it lies above the
  file if the path of the output directory does not lead up. -/
  new : ∀ place n, (∀ f ∈ files, t.place f.path ≠ place) → t.node? place = none →
    t'.node? place = some n → n = .directory ∧ ∃ f ∈ files, place ∈ t.above f.path ∧
      (".." ∉ config.outputDir.names → place <+: t.place f.path)
  /-- Generating once more succeeds and changes nothing. -/
  again : (model.generate config : FileTree.Action (List SourceFile)).run t' = (.ok files, t')

/-- What is written is what was rendered. -/
theorem generate_written
    (h : (model.generate config : FileTree.Action (List SourceFile)).run t = (.ok files, t')) :
    Written model config t t' files := by
  obtain ⟨rendered, run⟩ := run_generate_eq_ok.1 h
  obtain ⟨m, built, rfl⟩ := exists_module_of_files? rendered
  have stored := SourceFile.stored_of_storeAll run
  have holds := SourceFile.storeAll_holds (built.pairwise_places _ _ t) run
  have frame := SourceFile.storeAll_frame run
  refine ⟨rendered, ?_, ?_, ?_, ?_⟩
  · intro f hf
    obtain ⟨before, after, first⟩ := stored f hf
    exact SourceFile.readText?_of_holds first (holds f hf)
  · intro place n apart found
    exact frame.keeps apart found
  · intro place n apart absent found
    rcases frame.nodes place apart with same | ⟨-, made, f, hf, mem⟩
    · rw [same, absent] at found
      contradiction
    · rw [made] at found
      refine ⟨(Option.some.inj found).symm, f, hf, mem, fun plain => ?_⟩
      exact FileTree.prefix_of_mem_above (Module.up_not_mem_names plain hf) mem
  · exact run_generate_eq_ok.2 ⟨rendered, SourceFile.storeAll_of_holds stored holds⟩

/-- A text beside a ring that is a module. -/
def ringLabel : Model Float :=
  Record.named "Named" "label" (Record.fields "Union" [.autoName "Union", .children "Children"
    [Record.component "Component" (Record.fields "Circle" [.autoName "Circle"]),
      Record.fields "Text" [.autoName "Text", .parameter "Text" (.of (.text "A"))]]])

/-- In the working directory, there is a file in the place of one that the label needs, and
one beside. -/
def shelf : FileTree where
  nodes := .ofList [(["shop"], .directory), (["shop", "notes"], .file "kept"),
    (["shop", "out"], .directory), (["shop", "out", "label.scad"], .file "old")]
  workdir := ["shop"]

def shelfConfig : Config := { Config.standard with outputDir := ⟨"./out/"⟩ }

theorem ringLabel_written :
    ∃ files t', (ringLabel.generate shelfConfig : FileTree.Action (List SourceFile)).run shelf =
        (.ok files, t') ∧
      t'.listing =
        [("shop/", none), ("shop/notes", some "kept"), ("shop/out/", none),
          ("shop/out/circle_component/", none),
          ("shop/out/circle_component/circle_component.scad",
            some "module circle_component() \x7b\n\tcircle();\n\x7d\n\ncircle_component();\n"),
          ("shop/out/label.scad",
            some ("use <circle_component/circle_component.scad>\n\nmodule label() \x7b\n" ++
              "\tunion() \x7b\n\t\tcircle_component();\n\t\ttext(text=\"A\");\n\t\x7d\n\x7d\n\n" ++
              "label();\n"))] ∧
      Written ringLabel shelfConfig shelf t' files := by
  let run := (ringLabel.generate shelfConfig : FileTree.Action (List SourceFile)).run shelf
  have succeeds : run.1.toBool = true := by decide +kernel
  obtain ⟨files, t', h⟩ : ∃ files t', run = (.ok files, t') := by
    rcases run with ⟨_ | files, t'⟩
    · contradiction
    · exact ⟨files, t', rfl⟩
  refine ⟨files, t', h, ?_, generate_written h⟩
  have after : t' = run.2 := (congrArg Prod.snd h).symm
  rw [after]
  decide +kernel

end Model

end Scad
