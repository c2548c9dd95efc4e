import BundleConfig.Json.Reader
import BundleConfig.Logging.Actions
import BundleConfig.Main
import BundleConfig.Proofs.Builder.Outcome
import BundleConfig.Proofs.Configuration.Export
import BundleConfig.Proofs.EntryPoints
import BundleConfig.Proofs.Session.WellFormed
import BundleConfig.Proofs.Session.Accepted
import BundleConfig.Proofs.Session.History
import BundleConfig.Proofs.Logging.Delivery
import BundleConfig.Proofs.Logging.Configured
import BundleConfig.Proofs.CommandLine.Resolve
import BundleConfig.Proofs.CommandLine.Outcome
import BundleConfig.Proofs.CommandLine.LoggingOptions
import BundleConfig.Proofs.CommandLine.Listing
import BundleConfig.Proofs.OutputDirectory
import BundleConfig.Proofs.Projection
import BundleConfig.Proofs.Diagnostics
import BundleConfig.Proofs.Profile
import BundleConfig.Proofs.NamedProfiles
