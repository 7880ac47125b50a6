import FeatureFixtures.Main
import FeatureFixtures.Proofs.Files
import FeatureFixtures.Proofs.FingerprintEncoding
import FeatureFixtures.Proofs.Freshness
import FeatureFixtures.Proofs.Generation
import FeatureFixtures.Proofs.HeaderReadBack
import FeatureFixtures.Proofs.HostChoice
import FeatureFixtures.Proofs.LineEndings
import FeatureFixtures.Proofs.Lookup
import FeatureFixtures.Proofs.Numerals
import FeatureFixtures.Proofs.Results
import FeatureFixtures.Proofs.Runs
import FeatureFixtures.Proofs.Settling
import FeatureFixtures.Proofs.VersionText
import FeatureFixtures.Proofs.Contexts
import FeatureFixtures.Proofs.Launches
import FeatureFixtures.Proofs.Effects
import FeatureFixtures.Proofs.Judging
import FeatureFixtures.Proofs.Crashes
import FeatureFixtures.Proofs.Drafts
import FeatureFixtures.Proofs.Emission
import FeatureFixtures.Proofs.Messages
import FeatureFixtures.Proofs.Sessions
import FeatureFixtures.Proofs.Confirmation
import FeatureFixtures.Proofs.Layouts
import FeatureFixtures.Proofs.PrintedFeatures
import FeatureFixtures.Proofs.ReadBack
import FeatureFixtures.Proofs.Streams
import FeatureFixtures.Proofs.RecordedVersions
import FeatureFixtures.Proofs.Names
import FeatureFixtures.Proofs.Methods
import FeatureFixtures.Proofs.Acceptance
import FeatureFixtures.Proofs.Expansion
import FeatureFixtures.Proofs.Foretelling
import FeatureFixtures.Proofs.ReadLiterals
import FeatureFixtures.Proofs.ExampleBlocks
import FeatureFixtures.Proofs.TagLines
import FeatureFixtures.Proofs.Columns
import FeatureFixtures.Proofs.JoinedPieces
import FeatureFixtures.Proofs.Members
import FeatureFixtures.Proofs.Serving
import FeatureFixtures.Proofs.BrokenStreams
import FeatureFixtures.Proofs.RetoldErrors
import FeatureFixtures.Proofs.Lending
import FeatureFixtures.Proofs.BrokenConnections
import FeatureFixtures.Proofs.Separators
import FeatureFixtures.Proofs.RecordedPaths
import FeatureFixtures.Proofs.InstalledPrograms
import FeatureFixtures.Proofs.FaultLines
import FeatureFixtures.Proofs.IgnoredLines
import FeatureFixtures.Proofs.Conjunctions
import FeatureFixtures.Proofs.WrittenReports
