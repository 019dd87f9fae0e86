import Astro.Main
import Astro.Proofs.Grammar
import Astro.Proofs.Outcome
import Astro.Proofs.Walk
import Astro.Proofs.Derivation
import Astro.Proofs.Relocation
import Astro.Proofs.StatementWalk
import Astro.Proofs.Parsing
import Astro.Proofs.Glyphs
import Astro.Proofs.Positions
import Astro.Proofs.Lexing
import Astro.Proofs.LineSeams
import Astro.Proofs.RelocatedReading
import Astro.Proofs.StatementSeams
import Astro.Proofs.Endings
import Astro.Proofs.LastWords
import Astro.Proofs.RelocatedRun
import Astro.Proofs.Outputs
import Astro.Proofs.Concatenation
import Astro.Proofs.Words
import Astro.Proofs.Tables
import Astro.Proofs.Bindings
import Astro.Proofs.FailedRuns
import Astro.Proofs.Refusals
import Astro.Proofs.PrintStyles
import Astro.Proofs.Anchors
import Astro.Proofs.Offenders
import Astro.Proofs.ErrorPlaces
import Astro.Proofs.Segments
import Astro.Proofs.Recovery
import Astro.Proofs.LongestMatch
import Astro.Proofs.ValueIndependence
import Astro.Proofs.Rounding
import Astro.Proofs.Doubles
import Astro.Proofs.ShortestDecimals
import Astro.Proofs.NumberLayout
import Astro.Proofs.NumeralReading
import Astro.Proofs.PrintedNumbers
import Astro.Proofs.Accesses
import Astro.Proofs.CursorScan
import Astro.Proofs.CursorReading
import Astro.Proofs.CursorStatements
import Astro.Proofs.CheckedEvaluation
import Astro.Proofs.CheckedSessions
import Astro.Proofs.FirstFailures
import Astro.Proofs.DialectFeatures
import Astro.Proofs.Engines
import Astro.Proofs.NamesMentioned
import Astro.Proofs.OutputCuts
import Astro.Proofs.Traces
import Astro.Proofs.NestedSpans
import Astro.Proofs.Complaints
import Astro.Proofs.LexedNumerals
import Astro.Proofs.Respacing
import Astro.Proofs.Excerpts
import Astro.Proofs.NodeMaps
import Astro.Proofs.Dumps
import Astro.Proofs.CursorProgress
import Astro.Proofs.GivenSettings
import Astro.Proofs.PrintedExpressions
import Astro.Proofs.LoadedSettings
