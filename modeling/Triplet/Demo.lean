import Triplet.Job

/-! # Demonstration

A few genomes that come with the program, and a run of all of them with the default settings.
-/

namespace Triplet

def version : String := "0.1.0"

namespace Demo

def helloCircle : String := "; Smallest drawing program: one circle of radius 21.
ATG
GAA CCC GGA   ; PUSH 21, CIRCLE
TAA
"

def savedState : String := "; Draw away from the origin, then restore the saved pen and draw again.
ATG
TCA                           ; SAVE_STATE
GAA AGA GAA AGA ACA           ; TRANSLATE 8 8
GAA AGA GAA ACA CCA           ; RECT 8x4
TCG                           ; RESTORE_STATE
GAA ATA AAA                   ; LINE 12
TAA
"

def spiral : String := "; Eight circles stepping right while the pen turns.
ATG
GAA GGA GAA TAA GAA GAA TTA   ; COLOR h=40 s=48 l=32
GAA ACT GAA AGA CAA           ; LOOP over the next 7 instructions, 8 times
  GAA ACA GGA                 ; PUSH 4, CIRCLE
  GAA AAT GAA AAA ACA         ; TRANSLATE 3 0
  GAA CTG AGA                 ; ROTATE 30
TAA
"

/-- The genomes in the order of their names. -/
def genomes : List (String × String) :=
  [("hello_circle.genome", helloCircle), ("saved_state.genome", savedState),
    ("spiral.genome", spiral)]

variable {m : Type → Type} [Monad m] [Files m]

/-- Run all genomes; gives the directories of the results. -/
def run : ExceptT JobError m (List Path) :=
  genomes.mapM fun (name, text) => do
    let source := Path.ofText name
    let there := Job.directory Settings.default source
    Job.makeDirectory there
    let _ ← Job.complete Settings.default source there text.toList
    return there

end Demo

end Triplet
