import Triplet.Drawing.Recorder
import Triplet.Proofs.SmallStep

/-! # Recorded calls

A recorder keeps every call that it performs, and a call that fails leaves no trace in the list. So
the calls of a run only grow.
-/

namespace Triplet

namespace Recorder

variable {call : Call}

def Records (call : Call) (a : EStateM Fault Recorder Unit) : Prop :=
  ∀ r, match a.run r with
    | .ok _ r' => r'.calls = r.calls.push call
    | .error _ r' => r'.calls = r.calls

theorem records_record (call : Call) : Records call (record call) := fun _ => rfl

theorem Records.move {next : EStateM Fault Recorder Unit} (h : Records call next)
    (f : Placement → Except Fault Placement) : Records call (do move f; next) := by
  intro r
  rw [EStateM.run_bind]
  simp only [EStateM.run, Recorder.move]
  cases f r.placement with
  | ok p => exact h { r with placement := p }
  | error e => rfl

theorem records_perform (call : Call) : Records call (perform call) := by
  have hr := records_record call
  cases call with
  | circle | rect | line | triangle | ellipse | noise => exact hr
  | translate dx dy => exact (hr.move _).move _
  | rotate | scale | setPosition | setRotation | setScale => exact hr.move _
  | setColor h s l => exact fun _ => rfl

theorem calls_prefix_perform (call : Call) (r : Recorder) :
    r.calls.toList <+: (Machine.lastState (Surface.perform call r)).calls.toList := by
  have h := records_perform call r
  change r.calls.toList <+: (Machine.lastState ((perform call).run r)).calls.toList
  cases hp : (perform call).run r with
  | ok _ r' =>
    rw [hp] at h
    simp only [Machine.lastState, h, Array.toList_push]
    exact List.prefix_append _ _
  | error _ r' =>
    rw [hp] at h
    simp only [Machine.lastState, h]
    exact List.prefix_rfl

end Recorder

namespace Machine.Flat

theorem Moves.calls_grow {c d : Flat Recorder} (h : Moves c d) :
    c.machine.surface.calls.toList <+: d.machine.surface.calls.toList := by
  have key {f : Frame} {i : Instruction} {op : Opcode} {m : Machine Recorder}
      {r : EStateM.Result Stop (Machine Recorder) (Option (List Frame))}
      (hr : (f.effect i op).run (m.counted i.pointer op) = r) :
      m.surface.calls.toList <+: (lastState r).surface.calls.toList := by
    rw [← hr]
    exact (Elementary.effect f i op).surface_rel
      (R := fun s t : Recorder => s.calls.toList <+: t.calls.toList) (fun _ => List.prefix_rfl)
      (fun _ _ _ => List.IsPrefix.trans) Recorder.calls_prefix_perform (m.counted i.pointer op)
  cases h with
  | control | truncated => exact List.prefix_rfl
  | executed _ _ _ _ he | stopped _ _ _ _ he | failed _ _ _ _ he => exact key he

end Machine.Flat

end Triplet
