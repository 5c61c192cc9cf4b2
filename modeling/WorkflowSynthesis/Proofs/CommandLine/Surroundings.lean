import Mathlib.Data.List.Basic
import WorkflowSynthesis.CommandLine.Surroundings

/-!
What writing at a path changes. The text is found where it was written, every other file keeps its content, and a device
takes the text in place of a file.
-/

namespace WorkflowSynthesis

namespace Surroundings

variable {surroundings before after : Surroundings} {location folder : Location} {path content text : String}

/-! Where a path leads depends on the files alone. -/

theorem kind_of_files (files : after.files = before.files) : after.kind = before.kind := by
  funext location
  simp only [kind, files]

theorem walk_of_files (files : after.files = before.files) (location : Location) (names : List String) :
    after.walk location names = before.walk location names := by
  induction names generalizing location with
  | nil => rfl
  | cons name rest ih => simp only [walk, kind_of_files files, ih]

theorem resolve_of_files (files : after.files = before.files) (path : String) :
    after.resolve path = before.resolve path := by
  simp only [resolve, walk_of_files files]

theorem read_file (leads : surroundings.resolve path = .ok location)
    (found : surroundings.kind location = .file content) : surroundings.read path = (surroundings, .ok content) := by
  simp only [read, leads, found]

theorem write_error_of_files (files : after.files = before.files) (path text : String) :
    (after.write path text).2 = (before.write path text).2 := by
  simp only [write, resolve_of_files files, kind_of_files files]
  repeat' split
  all_goals rfl

theorem write_error {error : FileError} (unwritten : (surroundings.write path text).2 = .error error) :
    (surroundings.write path text).1 = surroundings := by
  unfold write at unwritten ⊢
  dsimp only at unwritten ⊢
  repeat' split
  all_goals simp_all

/-! A file in the place of another, or of nothing, leaves every folder a folder. -/

theorem kind_put (surroundings : Surroundings) (location : Location) (content : String) :
    (surroundings.put location content).kind location = .file content := by
  simp [kind, put]

theorem lookup_put_of_ne {other : Location} (different : other ≠ location) :
    (surroundings.put location content).files.lookup other = surroundings.files.lookup other := by
  have without (files : List (Location × String)) :
      (files.filter (·.1 ≠ location)).lookup other = files.lookup other := by
    induction files with
    | nil => rfl
    | cons file rest ih =>
      obtain ⟨there, stored⟩ := file
      by_cases replaced : there = location
      · have passed : (other == there) = false := by simpa [replaced] using different
        rw [List.filter_cons_of_neg (by simpa using replaced), ih, List.lookup_cons, passed]
      · rw [List.filter_cons_of_pos (by simpa using replaced), List.lookup_cons, List.lookup_cons, ih]
  have passed : (other == location) = false := by simpa using different
  simp only [put, List.lookup_cons, passed, without]

theorem kind_eq_folder : surroundings.kind folder = .folder ↔
    surroundings.files.lookup folder = none ∧
      ∃ inside ∈ workingDirectory :: rootFolders.map ([·]) ++ surroundings.files.map (·.1), folder <+: inside := by
  unfold kind
  cases surroundings.files.lookup folder with
  | some content => simp
  | none =>
    simp only [List.any_eq_true, List.isPrefixOf_iff_prefix, true_and]
    split
    next inside => simpa using inside
    next outside =>
      refine iff_of_false ?_ outside
      repeat' split
      all_goals simp

theorem kind_put_folder (is_folder : surroundings.kind folder = .folder)
    (free : surroundings.kind location ≠ .folder) :
    (surroundings.put location content).kind folder = .folder := by
  obtain ⟨no_file, inside, known, within⟩ := kind_eq_folder.mp is_folder
  have different : folder ≠ location := fun same => free (same ▸ is_folder)
  refine kind_eq_folder.mpr ⟨(lookup_put_of_ne different).trans no_file, inside, ?_, within⟩
  rcases List.mem_append.mp known with given | created
  · exact List.mem_append_left _ given
  · obtain ⟨file, stored, rfl⟩ := List.mem_map.mp created
    refine List.mem_append_right _ (List.mem_map.mpr ?_)
    by_cases replaced : file.1 = location
    · exact ⟨(location, content), by simp [put], replaced.symm⟩
    · exact ⟨file, by simp [put, stored, replaced], rfl⟩

theorem walk_put {start : Location} {names : List String} (leads : surroundings.walk start names = .ok folder)
    (free : surroundings.kind location ≠ .folder) :
    (surroundings.put location content).walk start names = .ok folder := by
  induction names generalizing start with
  | nil => exact leads
  | cons name rest ih =>
    unfold walk at leads ⊢
    cases here : surroundings.kind start with
    | nothing | file | device => simp [here] at leads
    | folder =>
      rw [here] at leads
      rw [kind_put_folder here free]
      dsimp only at leads ⊢
      split_ifs at leads ⊢
      all_goals exact ih leads

theorem resolve_put (leads : surroundings.resolve path = .ok folder) (free : surroundings.kind location ≠ .folder) :
    (surroundings.put location content).resolve path = .ok folder := by
  unfold resolve at leads ⊢
  split_ifs at leads ⊢
  all_goals exact walk_put leads free

theorem kind_eq_device {name : String} (is_device : surroundings.kind location = .device name) :
    location = ["dev", name] := by
  unfold kind at is_device
  dsimp only at is_device
  repeat' split at is_device
  all_goals simp_all

/-- A text was written at a path. -/
inductive Stored (path text : String) (before after : Surroundings) : Prop where
  | file (location : Location) (leads : before.resolve path = .ok location)
    (content : after.files.lookup location = some text)
    (others : ∀ other, other ≠ location → after.files.lookup other = before.files.lookup other)
    (output : after.output = before.output)
    (read : ∀ later : Surroundings, later.files = after.files → later.read path = (later, .ok text))
  | device (name : String) (leads : before.resolve path = .ok ["dev", name]) (room : name ≠ "full")
    (files : after.files = before.files)
    (output : after.output = if name = "stdout" then before.output ++ text else before.output)

theorem stored_put (leads : surroundings.resolve path = .ok location) (free : surroundings.kind location ≠ .folder) :
    Stored path text surroundings (surroundings.put location text) := by
  refine .file location leads (by simp [put]) (fun _ different => lookup_put_of_ne different) rfl fun later files => ?_
  have found : later.kind location = .file text := by rw [kind_of_files files, kind_put]
  exact read_file ((resolve_of_files files path).trans (resolve_put leads free)) found

theorem stored_write (written : surroundings.write path text = (after, .ok ())) :
    Stored path text surroundings after := by
  unfold write at written
  by_cases slash : path.endsWith "/" = true
  · simp only [slash, if_true] at written
    split at written <;> cases written
  · have target : (if path.toList.isEmpty then path else String.ofList path.toList) = path := by
      split_ifs
      · rfl
      · exact String.ofList_toList
    simp only [slash, Bool.false_eq_true, if_false, target] at written
    cases leads : surroundings.resolve path with
    | error error => simp [leads] at written
    | ok location =>
      cases there : surroundings.kind location with
      | folder => simp [leads, there] at written
      | nothing | file content =>
        simp only [leads, there, Prod.mk.injEq, and_true] at written
        exact written ▸ stored_put leads (by simp [there])
      | device name =>
        obtain rfl := kind_eq_device there
        by_cases full : name = "full"
        · subst full
          simp [leads, there] at written
        by_cases stdout : name = "stdout"
        · subst stdout
          simp only [leads, there, Prod.mk.injEq, and_true] at written
          exact written ▸ .device "stdout" leads full rfl rfl
        · have kept : after.files = surroundings.files ∧ after.output = surroundings.output := by
            simp only [leads, there] at written
            split at written <;> grind
          exact .device name leads full kept.1 (by rw [if_neg stdout, kept.2])

theorem Stored.of_files {ready written : Surroundings} (stored : Stored path text ready written)
    (files : ready.files = before.files) (output : ready.output = before.output)
    (files_after : after.files = written.files) (output_after : after.output = written.output) :
    Stored path text before after := by
  cases stored with
  | file location leads content others unprinted read =>
    rw [resolve_of_files files] at leads
    rw [← files_after] at content
    refine .file location leads content (fun other different => ?_) ?_ fun later same => ?_
    · rw [files_after, others other different, files]
    · rw [output_after, unprinted, output]
    · exact read later (same.trans files_after)
  | device name leads room unchanged printed =>
    rw [resolve_of_files files] at leads
    refine .device name leads room ?_ ?_
    · rw [files_after, unchanged, files]
    · rw [output_after, printed, output]

end Surroundings

end WorkflowSynthesis
