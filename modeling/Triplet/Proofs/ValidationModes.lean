import Triplet.Command.Dispatch
import Triplet.Disk
import Triplet.Proofs.ProblemLines

/-! # The two ways to print a validation

A genome file is validated by its path alone or with the flag for a document. Both ways end with the
code that says whether there are errors. But the lines about the problems are read as markup, and a
codon that is the tag `[/]` closes the tag of its line, whose own closing tag then matches nothing.
-/

namespace Triplet.Command

open Console

/-- A command on a disk comes to an end and leaves the disk as it is. -/
def Ends {α : Type} (d : Disk) (command : Command (StateM Disk) α) (result : Except Ending α) :
    Prop :=
  ∀ printed, ∃ printed', ((ExceptT.run command).run printed).run d = ((result, printed'), d)

namespace Ends

variable {α β : Type} {d : Disk} {command : Command (StateM Disk) α} {e : Ending}

theorem pure (a : α) : Ends d (Pure.pure a) (.ok a) := fun printed => ⟨printed, rfl⟩

theorem throw (e : Ending) : Ends (α := α) d (MonadExcept.throw e) (.error e) :=
  fun printed => ⟨printed, rfl⟩

theorem bind {next : α → Command (StateM Disk) β} {a : α} {result : Except Ending β}
    (h : Ends d command (.ok a)) (hn : Ends d (next a) result) :
    Ends d (command >>= next) result := by
  intro printed
  obtain ⟨printed', h⟩ := h printed
  obtain ⟨printed'', hn⟩ := hn printed'
  refine ⟨printed'', ?_⟩
  rw [ExceptT.run_bind, StateT.run_bind, StateT.run_bind, h]
  exact hn

theorem bind_error {next : α → Command (StateM Disk) β} (h : Ends d command (.error e)) :
    Ends d (command >>= next) (.error e) := by
  intro printed
  obtain ⟨printed', h⟩ := h printed
  refine ⟨printed', ?_⟩
  rw [ExceptT.run_bind, StateT.run_bind, StateT.run_bind, h]
  rfl

theorem echo (text : String) : Ends d (Command.echo text) (.ok ()) :=
  fun printed => ⟨printed ++ text ++ "\n", rfl⟩

theorem say_ok {markup : String} (h : failure? (render markup.toList) = none) :
    Ends d (say markup) (.ok ()) := by
  rw [say, shown]
  cases hr : render markup.toList with
  | ok line => exact echo _
  | error e => simp [hr, failure?] at h

theorem say_error {markup : String} {e : MarkupError}
    (h : failure? (render markup.toList) = some e) :
    Ends d (say markup) (.error (.crash (.markup e))) := by
  rw [say, shown]
  cases hr : render markup.toList with
  | ok line => simp [hr, failure?] at h
  | error e' =>
    obtain rfl : e' = e := by simpa [hr, failure?] using h
    exact throw _

theorem forM {f : α → Command (StateM Disk) Unit} {as : List α} {bad : α → Bool}
    (h : ∀ a ∈ as, Ends d (f a) (if bad a then .error e else .ok ())) :
    Ends d (as.forM f) (if as.any bad then .error e else .ok ()) := by
  induction as with
  | nil => exact pure ()
  | cons a as ih =>
    have ha := h a (by simp)
    rw [List.any_cons]
    cases hb : bad a with
    | true =>
      rw [hb] at ha
      exact bind_error ha
    | false =>
      rw [hb] at ha
      exact bind ha (ih fun a' ha' => h a' (by simp [ha']))

end Ends

section Validate

variable {d : Disk} {text : List Char}

/-- How a validation is meant to end: with an exit if there are errors. -/
def verdict (text : List Char) : Option Ending :=
  if (Genome.problems text).any Problem.isError then some (.exit 1) else none

def ended : Option Ending → Except Ending Unit
  | none => .ok ()
  | some e => .error e

def brokenLine : Ending := .crash (.markup (.unmatched "/red".toList))

theorem ends_sayProblem {indent : String} (hi : '[' ∉ indent.toList)
    (hl : indent.toList.getLast? ≠ some '\\') {p : Problem} (hp : p ∈ Genome.problems text) :
    Ends d (sayProblem indent p) (if p.closesTag then .error brokenLine else .ok ()) := by
  have hline := Problem.failure?_line hi hl hp rfl
  rw [sayProblem]
  cases hc : p.closesTag with
  | true =>
    rw [hc] at hline
    exact .bind_error (.say_error hline)
  | false =>
    rw [hc] at hline
    refine .bind (.say_ok hline) ?_
    split
    · rename_i fix hf
      exact .say_ok (Problem.failure?_fixLine hi hf)
    · exact .pure ()

def Reads (d : Disk) (file : Path) (text : List Char) : Prop :=
  (Files.readText (m := StateM Disk) file).run d = (.ok text, d)

theorem ends_readGenome {file : Path} (h : Reads d file text) :
    Ends d (readGenome (m := StateM Disk) file) (.ok text) := by
  have hread : Ends d (readText (m := StateM Disk) file) (.ok (.ok text)) := by
    intro printed
    refine ⟨printed, ?_⟩
    change StateT.run ((Except.ok <$> StateT.lift (Files.readText file)).run printed) d = _
    rw [StateT.run_map, StateT.run_lift, StateT.run_map, StateT.run_bind, h]
    rfl
  exact .bind hread (.pure text)

theorem ends_exit (text : List Char) :
    Ends (α := Unit) d
      (if (Genome.problems text).any Problem.isError then exit 1 else pure ())
      (ended (verdict text)) := by
  rw [verdict]
  split
  · exact .throw _
  · exact .pure ()

section Header

variable {file : String} (hf : '[' ∉ file.toList)
include hf

theorem failure?_validLine :
    failure? (render (s!"[green]✓ {file} is valid[/green]").toList) = none := by
  have hline : (s!"[green]✓ {file} is valid[/green]").toList =
      enclosed [] "green".toList (s!"✓ {file} is valid").toList := by
    simp [enclosed, closingTag, String.toList_append, Problem.toString_text]
  rw [hline]
  refine failure?_render_enclosed (by simp [lineStyles]) (by simp) (by simp) ?_ ?_
  · simp [String.toList_append, Problem.toString_text, hf]
  · exact Problem.getLast?_append_ne _ (by decide)

theorem failure?_countLine (count : Nat) :
    failure? (render (s!"[red]✗ {file} has {count} problem(s):[/red]").toList) = none := by
  have hline : (s!"[red]✗ {file} has {count} problem(s):[/red]").toList =
      enclosed [] "red".toList (s!"✗ {file} has {count} problem(s):").toList := by
    simp [enclosed, closingTag, String.toList_append, Problem.toString_text]
  have hdigits := Problem.notMem_digits (c := '[') (by decide) count
  rw [hline]
  refine failure?_render_enclosed (by simp [lineStyles]) (by simp) (by simp) ?_ ?_
  · simp [String.toList_append, Problem.toString_text, hf, hdigits]
  · exact Problem.getLast?_append_ne _ (by decide)

end Header

theorem ends_validate_json {file : Path} (h : Reads d file text) (verbose : Bool) :
    Ends d (validate file true verbose) (ended (verdict text)) :=
  .bind (ends_readGenome h) (.bind (.echo _) (ends_exit text))

theorem ends_validate {file : Path} (h : Reads d file text) (hf : '[' ∉ file.toText.toList) :
    Ends d (validate file false false)
      (ended (if (Genome.problems text).any Problem.closesTag then some brokenLine
        else verdict text)) := by
  refine .bind (ends_readGenome h) ?_
  simp only [Bool.false_eq_true, if_false]
  split
  · rename_i hv
    have hnil : Genome.problems text = [] := List.isEmpty_iff.mp hv
    rw [hnil]
    refine .bind (.say_ok (failure?_validLine hf)) ?_
    simpa [hnil] using ends_exit text
  · refine .bind (.say_ok (failure?_countLine hf _)) ?_
    · have hlines : Ends d ((Genome.problems text).forM (sayProblem "  ")) _ :=
        .forM fun p hp => ends_sayProblem (by decide) (by decide) hp
      cases hc : (Genome.problems text).any Problem.closesTag with
      | true =>
        rw [hc] at hlines
        exact .bind_error hlines
      | false =>
        rw [hc] at hlines
        exact .bind hlines (ends_exit text)

end Validate

section Arguments

variable {g : Grammar} {file : String}

theorem shape_of_head (h : file.toList.head? ≠ some '-') : g.shape file = .ok .positional := by
  rw [Grammar.shape]
  split
  · rename_i hf
    simp [hf] at h
  · rename_i hf
    simp [hf] at h
  · rename_i hf
    simp [hf] at h
  · rfl

theorem readOuter_validate (rest : List String) :
    readOuter ("validate" :: rest) = .ok (defaultLevel, .validate, rest) := by
  have hs : outerGrammar.shape "validate" = .ok .positional := rfl
  have hn : Name.ofText? "validate" = some .validate := rfl
  rw [readOuter, Grammar.read, hs]
  simp only [if_true, bind, Except.bind, hn]
  rfl

variable (h : file.toList.head? ≠ some '-') (hn : (Path.ofText file).hasNull = false)
include h hn

theorem read_validate :
    Request.read .validate [file] = .ok (.validate (.ofText file) false false) := by
  have hp : Request.path file = .ok (.ofText file) := by rw [Request.path, hn]; rfl
  rw [Request.read, Grammar.read, shape_of_head h]
  change (Request.path file >>= fun _ => _) = _
  rw [hp]
  rfl

theorem read_validate_json :
    Request.read .validate [file, "--json"] = .ok (.validate (.ofText file) true false) := by
  have hj : Name.validate.grammar.shape "--json" = .ok (.options [⟨"--json", none⟩]) := rfl
  have hp : Request.path file = .ok (.ofText file) := by rw [Request.path, hn]; rfl
  rw [Request.read, Grammar.read, shape_of_head h, Grammar.read, hj]
  change (Request.path file >>= fun _ => _) = _
  rw [hp]
  rfl

end Arguments

section Run

variable {d : Disk} {file : String} {text : List Char}

def runOn (atHand : Nat) (d : Disk) (args : List String) : Outcome × Disk :=
  (outcome (m := StateM Disk) (dispatch atHand args)).run d

theorem Ends.run_outcome {command : Command (StateM Disk) Unit} {ending? : Option Ending}
    (h : Ends d command (ended ending?)) :
    ∃ printed, (outcome command).run d = (⟨ending?, printed⟩, d) := by
  obtain ⟨printed, h⟩ := h ""
  refine ⟨printed, ?_⟩
  rw [outcome, StateT.run_bind, h]
  cases ending? <;> rfl

theorem Reads.hasNull {file : Path} (h : Reads d file text) : file.hasNull = false := by
  rw [Bool.eq_false_iff]
  intro hn
  have hread : Disk.read file d = .error ⟨.nullCharacter, file⟩ := by
    rw [Disk.read, Disk.place, Disk.start, if_pos hn]
    rfl
  have hfile : (Files.read (m := StateM Disk) file).run d =
      (.error ⟨.nullCharacter, file⟩, d) := by
    rw [← hread]
    rfl
  rw [Reads, Files.readText, StateT.run_bind, hfile] at h
  cases h

theorem ends_dispatch {atHand : Nat} {rest : List String} {r : Request}
    {result : Except Ending Unit} (hr : Request.read .validate rest = .ok r)
    (h : Ends d (serve atHand r) result) :
    Ends d (dispatch atHand ("validate" :: rest)) result := by
  have hl : (!levels.contains (String.ofList (Text.upperAll defaultLevel.toList))) = false := rfl
  rw [dispatch, readOuter_validate, accept]
  refine .bind (.pure _) ?_
  simp only [hl, Bool.false_eq_true, if_false, hr]
  exact .bind (.pure _) h

theorem notMem_toText (h : '[' ∉ file.toList) : '[' ∉ (Path.ofText file).toText.toList := by
  have hslash (n : Nat) : '[' ∉ List.replicate n '/' := by simp
  have hnames : '[' ∉ ("/".intercalate (Path.ofText file).names).toList := by
    intro hc
    rw [String.toList_intercalate] at hc
    rcases Text.mem_intercalate hc with hc | ⟨piece, hp, hc⟩
    · simp at hc
    · simp only [Path.ofText, List.map_map, List.mem_map, List.mem_filter] at hp
      obtain ⟨name, ⟨hname, -⟩, rfl⟩ := hp
      exact h (Text.mem_of_mem_split hname (by simpa using hc))
  rw [Path.toText]
  split
  · decide
  · rw [String.toList_append, List.mem_append, String.toList_ofList, not_or]
    exact ⟨hslash _, hnames⟩

structure IsPlain (file : String) : Prop where
  dash : file.toList.head? ≠ some '-'
  opening : '[' ∉ file.toList

section Modes

variable (hp : IsPlain file) (hr : Reads d (.ofText file) text) (atHand : Nat)
include hp hr

theorem runOn_validate_json :
    ∃ printed, runOn atHand d ["validate", file, "--json"] = (⟨verdict text, printed⟩, d) := by
  have hread := read_validate_json hp.dash hr.hasNull
  exact (ends_dispatch hread (ends_validate_json hr false)).run_outcome

theorem runOn_validate :
    ∃ printed, runOn atHand d ["validate", file] =
      (⟨if (Genome.problems text).any Problem.closesTag then some brokenLine else verdict text,
        printed⟩, d) := by
  have hread := read_validate hp.dash hr.hasNull
  have hv := ends_validate hr (notMem_toText hp.opening)
  exact (ends_dispatch hread hv).run_outcome

end Modes

theorem any_isError_of_closesTag (h : (Genome.problems text).any Problem.closesTag = true) :
    (Genome.problems text).any Problem.isError = true := by
  obtain ⟨p, hp, hc⟩ := List.any_eq_true.mp h
  refine List.any_eq_true.mpr ⟨p, hp, ?_⟩
  rcases Problem.mem_problems hp with ⟨t, -, rfl⟩ | hq
  · rfl
  · simp [Problem.closesTag, hq] at hc

theorem verdict_ne_brokenLine : verdict text ≠ some brokenLine := by
  rw [verdict]
  split <;> simp [brokenLine]

theorem code_verdict (text : List Char) (printed : String) :
    (Outcome.mk (verdict text) printed).code =
      if (Genome.problems text).any Problem.isError then 1 else 0 := by
  rw [Outcome.code, verdict]
  cases (Genome.problems text).any Problem.isError <;> rfl

end Run

def genomeDisk (text : String) : Disk :=
  Disk.empty.withFile ["home", "g.genome"] (.bytes (Text.encode text.toList))

theorem reads_of_read {d : Disk} {file : Path} {text : List Char} (data : List UInt8)
    (h : Disk.read file d = .ok data)
    (ht : ((Text.decode data).mapError ReadError.text).map Text.unifyNewlines = .ok text) :
    Reads d file text := by
  have hfile : (Files.read (m := StateM Disk) file).run d = (.ok data, d) := by
    rw [← h]
    rfl
  rw [Reads, Files.readText, StateT.run_bind, hfile, ← ht]
  rfl

theorem isPlain_genome : IsPlain "g.genome" where
  dash := by decide
  opening := by decide

theorem reads_sign : Reads (genomeDisk "ATG [#] TAA") (.ofText "g.genome") "ATG [#] TAA".toList :=
  reads_of_read (Text.encode "ATG [#] TAA".toList) rfl (by decide +kernel)

theorem reads_tag : Reads (genomeDisk "ATG [/] TAA") (.ofText "g.genome") "ATG [/] TAA".toList :=
  reads_of_read (Text.encode "ATG [/] TAA".toList) rfl (by decide +kernel)

/-- Both ways to validate a genome file leave the disk as it is and end with the code that says
whether there are errors. With a document the command comes to its proper end; without it does so
exactly if no codon of the text is the tag `[/]`, and breaks off at a closing tag otherwise. -/
theorem validate_modes (atHand : Nat) {d : Disk} {file : String} {text : List Char}
    (hp : IsPlain file) (hr : Reads d (.ofText file) text) :
    (runOn atHand d ["validate", file, "--json"]).1.ending? = verdict text ∧
      ((runOn atHand d ["validate", file]).1.ending? = verdict text ↔
        ∀ t ∈ Genome.tokens text, t.codon ≠ ['[', '/', ']']) ∧
      ((∃ t ∈ Genome.tokens text, t.codon = ['[', '/', ']']) →
        (runOn atHand d ["validate", file]).1.ending? =
          some (.crash (.markup (.unmatched "/red".toList)))) ∧
      ∀ flags ∈ [[], ["--json"]],
        (runOn atHand d ("validate" :: file :: flags)).1.code =
          (if (Genome.problems text).any Problem.isError then 1 else 0) ∧
        (runOn atHand d ("validate" :: file :: flags)).2 = d := by
  obtain ⟨json, hjson⟩ := runOn_validate_json hp hr atHand
  obtain ⟨lines, hlines⟩ := runOn_validate hp hr atHand
  have hflags {p : List String → Prop} (h : p []) (h' : p ["--json"]) :
      ∀ flags ∈ [[], ["--json"]], p flags := by simp [h, h']
  refine ⟨by rw [hjson], ?_⟩
  cases hc : (Genome.problems text).any Problem.closesTag with
  | true =>
    have htoken := Problem.any_closesTag_iff.mp hc
    rw [hc, if_pos rfl] at hlines
    refine ⟨?_, fun _ => by rw [hlines]; rfl, hflags ?_ ?_⟩
    · rw [hlines]
      constructor
      · intro hv
        exact (verdict_ne_brokenLine hv.symm).elim
      · intro hno
        obtain ⟨t, ht, htag⟩ := htoken
        exact (hno t ht htag).elim
    · rw [hlines, any_isError_of_closesTag hc]
      exact ⟨rfl, rfl⟩
    · rw [hjson]
      exact ⟨code_verdict text json, rfl⟩
  | false =>
    have htoken : ¬ ∃ t ∈ Genome.tokens text, t.codon = ['[', '/', ']'] := by
      rw [← Problem.any_closesTag_iff, hc]
      exact Bool.false_ne_true
    rw [hc, if_neg Bool.false_ne_true] at hlines
    refine ⟨?_, fun h => (htoken h).elim, hflags ?_ ?_⟩
    · rw [hlines]
      exact iff_of_true rfl fun t ht htag => htoken ⟨t, ht, htag⟩
    · rw [hlines]
      exact ⟨code_verdict text lines, rfl⟩
    · rw [hjson]
      exact ⟨code_verdict text json, rfl⟩

/-- A codon that opens a tag does not break its line. -/
theorem validate_modes_sign :
    Genome.problems "ATG [#] TAA".toList = [.unknownCodon "[#]".toList 1 3] ∧
      (runOn 0 (genomeDisk "ATG [#] TAA") ["validate", "g.genome"]).1.ending? =
        some (.exit 1) := by
  have h := validate_modes 0 isPlain_genome reads_sign
  have hv : verdict "ATG [#] TAA".toList = some (.exit 1) := by
    rw [verdict, if_pos (by decide)]
  refine ⟨by decide, ?_⟩
  rw [← hv]
  exact h.2.1.mpr (by decide)

/-- A file whose problems can be listed in a document but not in lines. -/
theorem validate_tag_breaks :
    (∃ printed, runOn 0 (genomeDisk "ATG [/] TAA") ["validate", "g.genome", "--json"] =
      (⟨some (.exit 1), printed⟩, genomeDisk "ATG [/] TAA")) ∧
    ∃ printed, runOn 0 (genomeDisk "ATG [/] TAA") ["validate", "g.genome"] =
      (⟨some (.crash (.markup (.unmatched "/red".toList))), printed⟩,
        genomeDisk "ATG [/] TAA") := by
  have hv : verdict "ATG [/] TAA".toList = some (.exit 1) := by
    rw [verdict, if_pos (by decide)]
  have hc : (Genome.problems "ATG [/] TAA".toList).any Problem.closesTag = true := by decide
  have hjson := runOn_validate_json isPlain_genome reads_tag 0
  have hlines := runOn_validate isPlain_genome reads_tag 0
  rw [hv] at hjson
  rw [hc, if_pos rfl] at hlines
  exact ⟨hjson, hlines⟩

end Triplet.Command
