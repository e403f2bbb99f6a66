import Triplet.Clamp
import Triplet.Codon
import Triplet.Command.Arguments
import Triplet.Command.Basic
import Triplet.Command.Compare
import Triplet.Command.Dispatch
import Triplet.Command.Mutate
import Triplet.Command.Request
import Triplet.Command.Run
import Triplet.Command.Stats
import Triplet.Command.Validation
import Triplet.Console.Emoji
import Triplet.Console.EmojiName
import Triplet.Console.Line
import Triplet.Console.Markup
import Triplet.Console.Parameters
import Triplet.Console.Style
import Triplet.Console.Table
import Triplet.Demo
import Triplet.Disk
import Triplet.Drawing.Call
import Triplet.Drawing.Canvas
import Triplet.Drawing.Ink
import Triplet.Drawing.InkText
import Triplet.Drawing.Matrix
import Triplet.Drawing.Noise
import Triplet.Drawing.Print
import Triplet.Drawing.Recorder
import Triplet.Drawing.Shape
import Triplet.Drawing.Surface
import Triplet.Drawing.SurveyColor
import Triplet.Execution
import Triplet.Fault
import Triplet.Files
import Triplet.Genome.Comparison
import Triplet.Genome.Problem
import Triplet.Genome.Strand
import Triplet.Genome.Token
import Triplet.Job
import Triplet.Machine.Run
import Triplet.Machine.State
import Triplet.Machine.Step
import Triplet.Main
import Triplet.Mutation.Bases
import Triplet.Mutation.Change
import Triplet.Mutation.Codons
import Triplet.Mutation.Position
import Triplet.Mutation.Refusal
import Triplet.Number
import Triplet.Number.Dyadic
import Triplet.Number.Entry
import Triplet.Number.Reading
import Triplet.Number.Shortest
import Triplet.Opcode
import Triplet.Path
import Triplet.Picture.Png
import Triplet.Picture.Raster
import Triplet.Program
import Triplet.Proofs.Acceptance
import Triplet.Proofs.Alignment
import Triplet.Proofs.BaseChange
import Triplet.Proofs.Budget
import Triplet.Proofs.CanvasScale
import Triplet.Proofs.CodonChange
import Triplet.Proofs.CodonDifferences
import Triplet.Proofs.DeadCode
import Triplet.Proofs.DecimalTexts
import Triplet.Proofs.DictatedCalls
import Triplet.Proofs.DistanceRows
import Triplet.Proofs.Doubles
import Triplet.Proofs.EarlyStop
import Triplet.Proofs.EditPath
import Triplet.Proofs.EditScript
import Triplet.Proofs.Effects
import Triplet.Proofs.ExactShares
import Triplet.Proofs.FiniteStates
import Triplet.Proofs.FlatMachine
import Triplet.Proofs.FrameAgreement
import Triplet.Proofs.FrameBreaks
import Triplet.Proofs.JoinedTexts
import Triplet.Proofs.LocalDamage
import Triplet.Proofs.Locality
import Triplet.Proofs.Lockstep
import Triplet.Proofs.LongestRun
import Triplet.Proofs.MarkupTags
import Triplet.Proofs.MissingOperands
import Triplet.Proofs.MutationCost
import Triplet.Proofs.NonsenseMutation
import Triplet.Proofs.NormalForm
import Triplet.Proofs.NumericTrace
import Triplet.Proofs.Outcomes
import Triplet.Proofs.Overflow
import Triplet.Proofs.Passes
import Triplet.Proofs.ProblemLines
import Triplet.Proofs.Products
import Triplet.Proofs.ReadingFrame
import Triplet.Proofs.Recording
import Triplet.Proofs.Relabelling
import Triplet.Proofs.ReplacedCodon
import Triplet.Proofs.SavedPens
import Triplet.Proofs.SilentMutation
import Triplet.Proofs.SimilarGenomes
import Triplet.Proofs.SmallStep
import Triplet.Proofs.Tallies
import Triplet.Proofs.TraceCells
import Triplet.Proofs.Turns
import Triplet.Proofs.Unrolling
import Triplet.Proofs.UpperCase
import Triplet.Proofs.UsageCounts
import Triplet.Proofs.UsageLikeness
import Triplet.Proofs.ValidationModes
import Triplet.Proofs.WholeNumbers
import Triplet.Random.Generator
import Triplet.Random.Range
import Triplet.Random.Seed
import Triplet.Report.Json
import Triplet.Report.Summary
import Triplet.Report.Trace
import Triplet.Settings.Basic
import Triplet.Settings.Check
import Triplet.Settings.Datum
import Triplet.Settings.Document
import Triplet.Similarity.Basic
import Triplet.Similarity.CommonRun
import Triplet.Similarity.Distance
import Triplet.Text.Base64
import Triplet.Text.Blank
import Triplet.Text.Case
import Triplet.Text.Digit
import Triplet.Text.Letter
import Triplet.Text.Lower
import Triplet.Text.Printable
import Triplet.Text.Quoted
import Triplet.Text.Utf8
import Triplet.Text.Width
import Triplet.Usage.Basic
import Triplet.Usage.Family
import Triplet.Usage.Tally
import Triplet.Value
import Triplet.Yaml.Content
import Triplet.Yaml.Cursor
import Triplet.Yaml.Error
import Triplet.Yaml.Grammar
import Triplet.Yaml.Lexer
import Triplet.Yaml.Literal
import Triplet.Yaml.Moment
import Triplet.Yaml.Node
import Triplet.Yaml.Number
import Triplet.Yaml.Plain
import Triplet.Yaml.Quoted
import Triplet.Yaml.Scalar
import Triplet.Yaml.Tag
import Triplet.Yaml.Token
