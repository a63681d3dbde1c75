import Mathlib
import DerivedFields.Command.Run
import DerivedFields.Proofs.Files.Locations
import DerivedFields.Proofs.Pipeline.LastPoints
import DerivedFields.Proofs.Pipeline.Telling

/-!
# Snapshots as files

The directory for snapshots has one file for each node, and a snapshot of the node replaces the one
before. So once the sink has taken a number of snapshots, the file of a node holds the last one of
the node, and all else is as it was when the directory was emptied. A run that ends leaves the document
of the last point that it came to in each node, and no snapshots of earlier runs.
-/

namespace DerivedFields

variable {directory : String} {format : Format} {files after : FileTree}

/-! ## Names -/

/-- The name of the file of a node. -/
def snapshotName (format : Format) (node : Nat) : String :=
  "node_" ++ toString node ++ "." ++ format.extension

private theorem toList_snapshotName (format : Format) (node : Nat) :
    (snapshotName format node).toList =
      "node_".toList ++ Nat.toDigits 10 node ++ '.' :: format.extension.toList := by
  rw [snapshotName, String.toList_append, String.toList_append, String.toList_append,
    Nat.toString_eq_repr, Nat.toList_repr, List.append_assoc]
  rfl

private theorem snapshotName_inj {node other : Nat}
    (same : snapshotName format node = snapshotName format other) : node = other := by
  have written := congrArg String.toList same
  rw [toList_snapshotName, toList_snapshotName] at written
  have digits := List.append_cancel_left (List.append_cancel_right written)
  rw [← Nat.ofDigitChars_ten_toDigits (n := node), digits, Nat.ofDigitChars_ten_toDigits]

private theorem plain_snapshotName (format : Format) (node : Nat) :
    FilePath.Plain (snapshotName format node) := by
  have written := toList_snapshotName format node
  have begins : ∃ rest, (snapshotName format node).toList = 'n' :: 'o' :: 'd' :: rest :=
    ⟨_, written⟩
  constructor
  · rw [written]
    simp only [List.mem_append, List.mem_cons, not_or]
    refine ⟨⟨by decide, ?_⟩, by decide, by cases format <;> decide⟩
    intro slash
    have digit := Nat.isDigit_of_mem_toDigits (by decide) (by decide) slash
    exact absurd digit (by decide)
  · obtain ⟨rest, begins⟩ := begins
    refine ⟨?_, ?_, ?_⟩ <;> intro same <;> rw [same] at begins <;> cases begins

private theorem isSnapshotName_snapshotName (format : Format) (node : Nat) :
    isSnapshotName (snapshotName format node) = true := by
  have front : (Nat.toDigits 10 node).reverse ++ "node_".toList.reverse ≠ [] :=
    List.append_ne_nil_of_right_ne_nil _ (by decide)
  obtain ⟨last, others, behind⟩ := List.exists_cons_of_ne_nil front
  have reversed : (snapshotName format node).toList.reverse =
      format.extension.toList.reverse ++ '.' :: last :: others := by
    rw [toList_snapshotName, List.reverse_append, List.reverse_append, List.reverse_cons,
      List.append_assoc, ← behind]
    rfl
  rw [isSnapshotName, Format.extension?, reversed]
  cases format <;> rfl

/-! ## The directory -/

private theorem location_snapshotPath (files : FileTree) (directory : String) (format : Format)
    (node : Nat) :
    files.location (snapshotPath directory format node) =
      files.location directory ++ [snapshotName format node] :=
  files.location_join directory (plain_snapshotName format node)

/-- A file that is written, or the fault that prevents it. -/
theorem writeText_cases (path text : String) (files : FileTree) :
    (∃ after, writeText path text files = (.ok (), after) ∧ files.write path text = .ok after) ∨
      ∃ fault, writeText path text files = (.error (.file path fault), files) := by
  rw [writeText]
  cases files.write path text with
  | error fault => exact .inr ⟨fault, rfl⟩
  | ok after => exact .inl ⟨after, rfl, rfl⟩

/-- The directory is ready once all snapshots are gone from it. Otherwise a fault is named. -/
theorem startSnapshots_cases (directory : String) (files : FileTree) :
    (∃ after, startSnapshots directory files = (.ok (), after) ∧
      after.current = files.current ∧
      (∀ location, FileTree.IsIn (files.location directory) isSnapshotName location →
        after.content? location = none) ∧
      ∀ location, ¬FileTree.IsIn (files.location directory) isSnapshotName location →
        after.content? location = files.content? location) ∨
    ∃ fault after, startSnapshots directory files = (.error (.file directory fault), after) := by
  have created := files.sameFiles_createDirectory directory
  rw [startSnapshots]
  generalize files.createDirectory directory = made at created ⊢
  rcases made with ⟨fault | ⟨⟩, ready⟩
  · exact .inr ⟨fault, ready, rfl⟩
  · dsimp only
    cases removed : ready.removeFiles directory isSnapshotName with
    | error fault => exact .inr ⟨fault, ready, rfl⟩
    | ok after =>
      obtain ⟨current, gone, others⟩ := FileTree.content?_removeFiles removed
      rw [FileTree.location_congr created.current] at gone others
      refine .inl ⟨after, rfl, current.trans created.current, gone, ?_⟩
      intro location other
      exact (others location other).trans (created.content location)

/-- A snapshot is written to the file of its node. -/
theorem record_toDirectory (directory : String) (format : Format) (point : SnapshotPoint)
    (document : Document) (files : FileTree) :
    (Sink.toDirectory directory format).record point document files =
      writeText (snapshotPath directory format point.node) document.render files := by
  rw [Sink.toDirectory]

/-- What the sink is left with once it took a number of snapshots. -/
theorem tell_toDirectory {snapshots : Snapshots} (took :
      (Sink.toDirectory directory format).tell snapshots files = (.ok (), after)) :
    after.current = files.current ∧
      (∀ node, after.content? (files.location directory ++ [snapshotName format node]) =
        match snapshots.lastOf? node with
        | some (_, document) => some document.render
        | none => files.content? (files.location directory ++ [snapshotName format node])) ∧
      ∀ location, (∀ node, location ≠ files.location directory ++ [snapshotName format node]) →
        after.content? location = files.content? location := by
  induction snapshots generalizing files with
  | nil =>
    cases took
    exact ⟨rfl, fun _ => rfl, fun _ _ => rfl⟩
  | cons snapshot rest ih =>
    obtain ⟨point, document⟩ := snapshot
    rw [Sink.tell, record_toDirectory] at took
    rcases writeText_cases (snapshotPath directory format point.node) document.render files with
      ⟨next, ran, wrote⟩ | ⟨fault, ran⟩
    · rw [ran] at took
      obtain ⟨moved, here, others⟩ := FileTree.content?_write wrote
      obtain ⟨current, snapshots, beyond⟩ := ih took
      rw [location_snapshotPath] at here others
      rw [FileTree.location_congr moved] at snapshots beyond
      refine ⟨current.trans moved, fun node => ?_, fun location other => ?_⟩
      · rw [snapshots node, Snapshots.lastOf?_cons]
        cases Snapshots.lastOf? node rest with
        | some later => rfl
        | none =>
          by_cases own : point.node = node
          · rw [if_pos own, ← own, here]
            rfl
          · rw [if_neg own, others]
            · rfl
            · intro same
              have last := List.append_cancel_left same
              exact own (snapshotName_inj (List.singleton_inj.mp last)).symm
      · rw [beyond location other, others location (other point.node)]
    · rw [ran] at took
      cases took

/-- Where the sink refuses a snapshot, a fault is named. -/
theorem tell_toDirectory_refused {snapshots : Snapshots} {failure : Failure} (refused :
      (Sink.toDirectory directory format).tell snapshots files = (.error failure, after)) :
    ∃ path fault, failure = .file path fault := by
  induction snapshots generalizing files with
  | nil => cases refused
  | cons snapshot rest ih =>
    obtain ⟨point, document⟩ := snapshot
    rw [Sink.tell, record_toDirectory] at refused
    rcases writeText_cases (snapshotPath directory format point.node) document.render files with
      ⟨next, ran, -⟩ | ⟨fault, ran⟩
    · rw [ran] at refused
      exact ih refused
    · rw [ran] at refused
      cases refused
      exact ⟨_, fault, rfl⟩

/-! ## What a run leaves -/

/-- The document that a pipeline ends with if it is cut off at a point. -/
def Pipeline.documentAt (pipeline : Pipeline) (evaluator : Evaluator) (source : TableSource)
    (input : Document) (point : SnapshotPoint) : Except Failure Document :=
  ((pipeline.cut point).run evaluator (.ofSource source) input Sink.discard ()).1.map Prod.fst

namespace FileTree

/-- Of the snapshots in a directory there are those of some points, each rendered into the file of
its node, and no others. -/
structure HoldsSnapshots (files : FileTree) (directory : List String) (format : Format)
    (documentAt : SnapshotPoint → Except Failure Document) (points : List SnapshotPoint) :
    Prop where
  written : ∀ point ∈ points, ∃ document, documentAt point = .ok document ∧
    files.content? (directory ++ [snapshotName format point.node]) = some document.render
  only : ∀ location, IsIn directory isSnapshotName location → files.content? location ≠ none →
    ∃ point ∈ points, location = directory ++ [snapshotName format point.node]

/-- What holds of the snapshots in a directory depends on them alone. -/
theorem HoldsSnapshots.congr {files after : FileTree} {directory : List String} {format : Format}
    {documentAt : SnapshotPoint → Except Failure Document} {points : List SnapshotPoint}
    (holds : files.HoldsSnapshots directory format documentAt points)
    (same : ∀ location, IsIn directory isSnapshotName location →
      after.content? location = files.content? location) :
    after.HoldsSnapshots directory format documentAt points := by
  constructor
  · intro point member
    obtain ⟨document, reached, rendered⟩ := holds.written point member
    refine ⟨document, reached, ?_⟩
    rw [same _ ⟨_, rfl, isSnapshotName_snapshotName format point.node⟩, rendered]
  · intro location inside there
    rw [same location inside] at there
    exact holds.only location inside there

/-- All files but the snapshots in a directory are as they were before. -/
structure Leaves (before after : FileTree) (directory : String) (format : Format)
    (documentAt : SnapshotPoint → Except Failure Document) (points : List SnapshotPoint) :
    Prop where
  current : after.current = before.current
  snapshots : after.HoldsSnapshots (before.location directory) format documentAt points
  others : ∀ location, ¬IsIn (before.location directory) isSnapshotName location →
    after.content? location = before.content? location

end FileTree

namespace Pipeline

variable {pipeline : Pipeline} {evaluator : Evaluator} {source : TableSource} {input : Document}
  {begun told : FileTree}

/-- The sink leaves the last snapshot of each node. -/
theorem leaves_of_tell {ahead points : List SnapshotPoint} {execution : Execution Snapshots}
    (regular : evaluator.registry.Regular)
    (traced : execution.Traced pipeline evaluator source input ahead)
    (last : ∀ point, SnapshotPoint.lastOf? point.node (execution.sink.map Prod.fst) = some point ↔
      point ∈ points)
    (current : begun.current = files.current)
    (gone : ∀ location, FileTree.IsIn (files.location directory) isSnapshotName location →
      begun.content? location = none)
    (kept : ∀ location, ¬FileTree.IsIn (files.location directory) isSnapshotName location →
      begun.content? location = files.content? location)
    (took : (Sink.toDirectory directory format).tell execution.sink begun = (.ok (), told)) :
    files.Leaves told directory format (pipeline.documentAt evaluator source input) points := by
  obtain ⟨moved, snapshots, beyond⟩ := tell_toDirectory took
  rw [FileTree.location_congr current] at snapshots beyond
  have named (node : Nat) : FileTree.IsIn (files.location directory) isSnapshotName
      (files.location directory ++ [snapshotName format node]) :=
    ⟨_, rfl, isSnapshotName_snapshotName format node⟩
  refine ⟨moved.trans current, ⟨?_, ?_⟩, ?_⟩
  · intro point member
    have found := (last point).mpr member
    rw [← Snapshots.lastOf?_points] at found
    obtain ⟨⟨point, document⟩, found, rfl⟩ := Option.map_eq_some_iff.mp found
    have taken : (point, document) ∈ execution.sink :=
      (List.mem_filter.mp (List.mem_of_getLast? found)).1
    refine ⟨document, ?_, ?_⟩
    · rw [documentAt, run_fst _ regular Sink.reliable_discard (TableCache.serves_ofSource source)]
      exact traced.documents point document taken
    · rw [snapshots, found]
  · rintro _ ⟨name, rfl, meant⟩ there
    by_cases other : ∀ node, name ≠ snapshotName format node
    · -- nothing was written there since the directory was emptied
      rw [beyond, gone _ ⟨name, rfl, meant⟩] at there
      · exact absurd rfl there
      · intro node same
        exact other node (List.singleton_inj.mp (List.append_cancel_left same))
    · obtain ⟨node, rfl⟩ := not_forall_not.mp other
      rw [snapshots] at there
      cases found : Snapshots.lastOf? node execution.sink with
      | none =>
        rw [found, gone _ (named node)] at there
        exact absurd rfl there
      | some snapshot =>
        have own : snapshot.1.node = node :=
          beq_iff_eq.mp (List.mem_filter.mp (List.mem_of_getLast? found)).2
        have points := Snapshots.lastOf?_points node execution.sink
        rw [found, ← own] at points
        exact ⟨snapshot.1, (last snapshot.1).mp points.symm, by rw [own]⟩
  · intro location other
    rw [beyond location, kept location other]
    rintro node rfl
    exact other (named node)

/-- A run with a directory for snapshots gives what the run gives without, and leaves the snapshots
of the nodes that were completed. If an instruction fails, it leaves those of the nodes before, and
of its own node the one in front of the instruction. -/
theorem run_toDirectory (pipeline : Pipeline) {evaluator : Evaluator}
    (regular : evaluator.registry.Regular) (source : TableSource) (input : Document)
    (directory : String) (format : Format) (files : FileTree) :
    let ran :=
      pipeline.run evaluator (.ofSource source) input (Sink.toDirectory directory format) files
    (∀ reached, ran.1 = .ok reached →
      (pipeline.run evaluator (.ofSource source) input Sink.discard ()).1 = .ok reached ∧
        files.Leaves ran.2 directory format (pipeline.documentAt evaluator source input)
          (SnapshotPoint.completed pipeline.nodes.length)) ∧
    ∀ node position path cause, ran.1 = .error (.instruction node position path cause) →
      files.Leaves ran.2 directory format (pipeline.documentAt evaluator source input)
        (SnapshotPoint.lastBefore node position) := by
  intro ran
  let sink := Sink.toDirectory directory format
  have serves := TableCache.serves_ofSource source
  have trails := pipeline.execute_trails regular serves input []
  have alike : (pipeline.run evaluator (.ofSource source) input Sink.discard ()).1 =
      (pipeline.run evaluator (.ofSource source) input Sink.keep []).1 := by
    rw [run_fst _ regular Sink.reliable_discard serves, run_fst _ regular Sink.reliable_keep serves]
  have left : ran = pipeline.run evaluator (.ofSource source) input sink files := rfl
  rw [alike, left, run_eq, run_eq]
  dsimp only
  rcases startSnapshots_cases directory files with
    ⟨begun, ready, current, gone, kept⟩ | ⟨fault, begun, unready⟩
  · have tells := pipeline.execute_tells evaluator sink input (.ofSource source) ready
    generalize pipeline.execute evaluator Sink.keep (.start input (.ofSource source) []) = snapshots
      at trails tells ⊢
    generalize pipeline.execute evaluator sink (.start input (.ofSource source) files) = executed
      at tells ⊢
    cases tells with
    | @took result after new told taken took =>
      obtain rfl : after.sink = new := taken
      cases trails with
      | through traced =>
        refine ⟨fun reached finished => ⟨finished, ?_⟩, nofun⟩
        refine leaves_of_tell regular traced (fun point => ?_) current gone kept took
        have points := traced.points
        rw [List.append_nil] at points
        rw [points, lastOf?_points_iff]
      | stopped traced =>
        refine ⟨nofun, ?_⟩
        rintro _ _ _ _ ⟨⟩
        exact leaves_of_tell regular traced (lastOf?_before traced.points) current gone kept took
    | refused taken refused =>
      obtain ⟨path, fault, rfl⟩ := tell_toDirectory_refused refused
      exact ⟨nofun, nofun⟩
  · have failed := pipeline.execute_unready evaluator sink input (.ofSource source) unready
    rw [failed]
    exact ⟨nofun, nofun⟩

end Pipeline

end DerivedFields
