import Triplet.Drawing.Recorder
import Triplet.Execution
import Triplet.Report.Json
import Triplet.Text.Base64

/-! # Summaries

Problems, snapshots and executions as JSON documents, and the calls of a recorder as a document
inside a link.
-/

namespace Triplet

def Problem.toJson (p : Problem) : Json :=
  .object [("message", .string p.message), ("severity", .string p.severity.name),
    ("position", .int p.position), ("fix", Json.ofOption Json.string p.fix?)]

namespace Pen

def members (pen : Pen) : List (String × Json) :=
  let p := pen.placement
  let c := pen.color
  [("position", .object [("x", .ofValue p.x), ("y", .ofValue p.y)]),
    ("rotation", .ofValue p.rotation), ("scale", .ofValue p.scale),
    ("color", .object [("h", .ofValue c.h), ("s", .ofValue c.s), ("l", .ofValue c.l)])]

end Pen

def Snapshot.toJson (s : Snapshot) : Json :=
  .object (s.pen.members ++
    [("stack", .list (s.stack.reverse.map Json.ofValue)),
      ("instruction_pointer", .int s.pointer),
      ("state_stack", .list (s.saved.reverse.map fun pen => .object pen.members)),
      ("instruction_count", .int s.count), ("seed", .ofValue s.seed),
      ("last_opcode", Json.ofOption (fun op => .string op.name) s.last?)])

def Execution.members {σ : Type} (e : Execution σ) : List (String × Json) :=
  [("codons", .int e.tokens.length), ("errors", .list (e.errors.map Problem.toJson)),
    ("warnings", .list (e.warnings.map Problem.toJson)), ("steps", .int e.states.length),
    ("truncated", .bool e.truncated), ("final_state", Json.ofOption Snapshot.toJson e.final?)]

def Call.toJson (call : Call) : Json :=
  .list [.string call.name, .list (call.args.map Json.ofValue)]

/-- A link that holds the recorded calls. -/
def Recorder.dataUrl (r : Recorder) : String :=
  let document := (Json.list (r.calls.toList.map Call.toJson)).compact
  "data:application/json;base64," ++ String.ofList (Text.base64 document.toUTF8.toList)

end Triplet
