import DerivedFields.Fault

/-!
# Snapshots

While a pipeline runs, a sink receives the document that is being written after every instruction
and the finished document after every node. A sink has a state of its own and may fail.
-/

namespace DerivedFields

/-- When a snapshot is taken; nodes and instructions are counted from one. -/
inductive SnapshotPoint
  | instruction (node position : Nat)
  | nodeComplete (node : Nat)
  deriving DecidableEq

namespace SnapshotPoint

def node : SnapshotPoint → Nat
  | .instruction node _ => node
  | .nodeComplete node => node

def toText : SnapshotPoint → String
  | .instruction node position =>
    "node " ++ toString node ++ " instruction " ++ toString position
  | .nodeComplete node => "node " ++ toString node ++ " complete"

end SnapshotPoint

/-- A receiver of snapshots whose state is of type `σ`. -/
structure Sink (σ : Type) where
  /-- Called once before the first node. -/
  start : σ → Except Failure Unit × σ
  record : SnapshotPoint → Document → σ → Except Failure Unit × σ

namespace Sink

/-- Drops all snapshots. -/
def discard : Sink Unit := ⟨fun _ => (.ok (), ()), fun _ _ _ => (.ok (), ())⟩

/-- Keeps all snapshots in order. -/
def keep : Sink (List (SnapshotPoint × Document)) :=
  ⟨fun _ => (.ok (), []), fun point document kept => (.ok (), kept ++ [(point, document)])⟩

end Sink

end DerivedFields
