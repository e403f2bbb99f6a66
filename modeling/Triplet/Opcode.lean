import Triplet.Text.Quoted

/-! # Opcodes

The instructions of the drawing language.
-/

namespace Triplet

inductive Opcode where
  | start | stop | nop
  | push | dup | pop | swap
  | add | sub | mul | div | eq | lt
  | loop | save | restore
  | translate | rotate | scale | color
  | circle | rect | line | triangle | ellipse
  deriving DecidableEq, Repr

namespace Opcode

def all : List Opcode :=
  [start, stop, nop, push, dup, pop, swap, add, sub, mul, div, eq, lt, loop, save, restore,
    translate, rotate, scale, color, circle, rect, line, triangle, ellipse]

def name : Opcode → String
  | start => "START"
  | stop => "STOP"
  | nop => "NOP"
  | push => "PUSH"
  | dup => "DUP"
  | pop => "POP"
  | swap => "SWAP"
  | add => "ADD"
  | sub => "SUB"
  | mul => "MUL"
  | div => "DIV"
  | eq => "EQ"
  | lt => "LT"
  | loop => "LOOP"
  | save => "SAVE_STATE"
  | restore => "RESTORE_STATE"
  | translate => "TRANSLATE"
  | rotate => "ROTATE"
  | scale => "SCALE"
  | color => "COLOR"
  | circle => "CIRCLE"
  | rect => "RECT"
  | line => "LINE"
  | triangle => "TRIANGLE"
  | ellipse => "ELLIPSE"

def ofName? (s : String) : Option Opcode := all.find? (·.name == s)

/-- The text for a name that no opcode has. -/
def unknownMessage (s : String) : String := Text.quote s ++ " is not a valid Opcode"

end Opcode

end Triplet
