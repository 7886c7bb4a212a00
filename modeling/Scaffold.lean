import Scaffold.Config.Encoding
import Scaffold.Config.Settings
import Scaffold.Generator.Generator
import Scaffold.Json.Reader
import Scaffold.Json.Writer
import Scaffold.Ordering.Encoding
import Scaffold.Ordering.Recursive
import Scaffold.Proofs.Block
import Scaffold.Proofs.Config.Validation
import Scaffold.Proofs.FeatureSet.Accessors
import Scaffold.Proofs.FeatureSet.ClassName
import Scaffold.Proofs.FeatureSet.Contributors
import Scaffold.Proofs.FeatureSet.Exposure
import Scaffold.Proofs.FeatureSet.InitOrder
import Scaffold.Proofs.Generator.Coherence
import Scaffold.Proofs.Generator.Phases
import Scaffold.Proofs.Indentation
import Scaffold.Proofs.Json.RoundTrip
import Scaffold.Proofs.Ordering.Course
import Scaffold.Proofs.Ordering.Outcome
import Scaffold.Proofs.Ordering.Recursion
import Scaffold.Proofs.Ordering.TieBreak
import Scaffold.Proofs.Registry.Attribution
import Scaffold.Proofs.Registry.Change
import Scaffold.Proofs.Registry.Initialization
import Scaffold.Proofs.Registry.Interleaving
import Scaffold.Proofs.Registry.Laziness
import Scaffold.Proofs.Registry.Persistence
import Scaffold.Proofs.Registry.Placeholders
import Scaffold.Proofs.Registry.Retry
import Scaffold.Proofs.Registry.Termination
import Scaffold.Proofs.Registry.TypedAccess
import Scaffold.Proofs.Section.LineEndings
import Scaffold.Proofs.Section.Places
import Scaffold.Proofs.Section.Reading
import Scaffold.Proofs.Section.Refilling
import Scaffold.Proofs.Section.Representation
import Scaffold.Proofs.Section.Sequencing
import Scaffold.Proofs.Section.Simultaneous
import Scaffold.Registry.Claims
import Scaffold.Registry.Placeholders
import Scaffold.Registry.Script
