import Timings.Analysis
import Timings.Files.Path
import Timings.Files.Replace
import Timings.Histogram
import Timings.Log
import Timings.Main
import Timings.Proofs.Accepted
import Timings.Proofs.Agreement
import Timings.Proofs.Arithmetic
import Timings.Proofs.AxisLabels
import Timings.Proofs.Bars
import Timings.Proofs.Binning
import Timings.Proofs.Canonical
import Timings.Proofs.Clamped
import Timings.Proofs.Counts
import Timings.Proofs.Decimals
import Timings.Proofs.Doubles
import Timings.Proofs.EventTable
import Timings.Proofs.Exact
import Timings.Proofs.ExactMerge
import Timings.Proofs.Finite
import Timings.Proofs.FiniteLines
import Timings.Proofs.Fragments
import Timings.Proofs.Grammar
import Timings.Proofs.Joined
import Timings.Proofs.Labels
import Timings.Proofs.LatencyRows
import Timings.Proofs.Members
import Timings.Proofs.Notation
import Timings.Proofs.NumeralValues
import Timings.Proofs.Places
import Timings.Proofs.Plotted
import Timings.Proofs.Ranges
import Timings.Proofs.ReadBack
import Timings.Proofs.Replacing
import Timings.Proofs.Represented
import Timings.Proofs.Requested
import Timings.Proofs.Restoring
import Timings.Proofs.Rounding
import Timings.Proofs.Rounds
import Timings.Proofs.Runs
import Timings.Proofs.Scaling
import Timings.Proofs.Signed
import Timings.Proofs.Sizes
import Timings.Proofs.Statistics
import Timings.Proofs.StructuredLines
import Timings.Proofs.Unattended
import Timings.Proofs.Variance
import Timings.Proofs.Widths
import Timings.Proofs.Words
