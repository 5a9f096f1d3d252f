import SplitTest.CommandLine.Report
import SplitTest.Configuration.Moment
import SplitTest.Main
import SplitTest.Registries
import SplitTest.Proofs.Arguments.Lowered
import SplitTest.Proofs.CommandLine.Verdict
import SplitTest.Proofs.Configuration.Absence
import SplitTest.Proofs.Experiment.Growth
import SplitTest.Proofs.Experiment.Identity
import SplitTest.Proofs.Experiment.Label
import SplitTest.Proofs.Experiment.LetterCase
import SplitTest.Proofs.Experiment.Precedence
import SplitTest.Proofs.Experiment.Seed
import SplitTest.Proofs.Experiment.Stickiness
import SplitTest.Proofs.Manifest.Finite
import SplitTest.Proofs.Number.Minimality
import SplitTest.Proofs.Predicate.Comparison
import SplitTest.Proofs.Predicate.Negation
import SplitTest.Proofs.Registry.Compilations
import SplitTest.Proofs.Registry.Default
import SplitTest.Proofs.Registry.Exposures
import SplitTest.Proofs.Registry.Isolation
import SplitTest.Proofs.VariantSet.Priority
import SplitTest.Proofs.VariantSet.Thousandths
import SplitTest.Proofs.VariantSet.Usable
import SplitTest.Proofs.Watcher.Convergence
import SplitTest.Proofs.Watcher.Startup
import SplitTest.Proofs.Watcher.Waiting
