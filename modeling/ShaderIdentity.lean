import ShaderIdentity.Shader.Fingerprint
import ShaderIdentity.Shader.Handle
import ShaderIdentity.Json.Decoder
import ShaderIdentity.Json.Printer
import ShaderIdentity.Profile.Document
import ShaderIdentity.Profile.Listing
import ShaderIdentity.Tracking.Call
import ShaderIdentity.Proofs.Shader.FingerprintText
import ShaderIdentity.Proofs.Json.NumeralText
import ShaderIdentity.Proofs.Json.NumeralLaws
import ShaderIdentity.Proofs.Json.QuotationLaws
import ShaderIdentity.Proofs.Json.CanonicalLaws
import ShaderIdentity.Proofs.Json.Spelling
import ShaderIdentity.Proofs.Json.RoundTrip
import ShaderIdentity.Proofs.Json.Skipping
import ShaderIdentity.Proofs.Json.TypedReading
import ShaderIdentity.Proofs.Json.RecordLaws
import ShaderIdentity.Proofs.Profile.SettingsLaws
import ShaderIdentity.Proofs.Profile.SettingsGrammar
import ShaderIdentity.Proofs.Profile.DocumentLaws
import ShaderIdentity.Proofs.Profile.Keys
import ShaderIdentity.Proofs.Profile.DocumentRoundTrip
import ShaderIdentity.Proofs.Tracking.Loading
import ShaderIdentity.Proofs.Tracking.NormalForm
import ShaderIdentity.Proofs.Tracking.Period
import ShaderIdentity.Proofs.Files.TreeLaws
import ShaderIdentity.Proofs.Tracking.Replacement
import ShaderIdentity.Proofs.Tracking.Reopening
import ShaderIdentity.Proofs.Json.NumberRange
import ShaderIdentity.Proofs.Profile.Accounting
import ShaderIdentity.Proofs.Shader.WordScan
import ShaderIdentity.Proofs.Tracking.History
import ShaderIdentity.Proofs.Tracking.Effects
import ShaderIdentity.Proofs.Tracking.Identity
import ShaderIdentity.Proofs.Tracking.Constants
import ShaderIdentity.Proofs.Tracking.WordCreation
import ShaderIdentity.Tracking.Query
import ShaderIdentity.Proofs.Tracking.Transcript
import ShaderIdentity.Proofs.Tracking.Rejection
import ShaderIdentity.Proofs.Tracking.Integrity
import ShaderIdentity.Proofs.Tracking.Renaming
import ShaderIdentity.Proofs.Tracking.Separation
import ShaderIdentity.Proofs.Tracking.Vacancy
import ShaderIdentity.Proofs.Tracking.ProfileSteps
import ShaderIdentity.Proofs.Tracking.SettingsHistory
import ShaderIdentity.Proofs.Tracking.WorldMatrix
import ShaderIdentity.Proofs.Files.Descent
import ShaderIdentity.Proofs.Tracking.Saving
import ShaderIdentity.Proofs.Shader.BitwiseChecksum
import ShaderIdentity.Proofs.Shader.Bursts
import ShaderIdentity.Proofs.Shader.Attainment
import ShaderIdentity.Proofs.Tracking.ConfigurationText
import ShaderIdentity.Proofs.Profile.Mentions
import ShaderIdentity.Proofs.Files.Apart
import ShaderIdentity.Proofs.Profile.ListingPlaces
import ShaderIdentity.Proofs.Tracking.Scanning
import ShaderIdentity.Proofs.Tracking.RegisterAccess
import ShaderIdentity.Proofs.Shader.Differences
