import SharedKey.Config
import SharedKey.Report
import SharedKey.Proofs.AccountKey
import SharedKey.Proofs.AccountName
import SharedKey.Proofs.AuthorizationText
import SharedKey.Proofs.ConfigRuns
import SharedKey.Proofs.EscapeScan
import SharedKey.Proofs.FieldSpelling
import SharedKey.Proofs.HeaderReading
import SharedKey.Proofs.Layout
import SharedKey.Proofs.ParameterTable
import SharedKey.Proofs.QueryGrammar
import SharedKey.Proofs.QueryOrder
import SharedKey.Proofs.QuerySpelling
import SharedKey.Proofs.Redaction
import SharedKey.Proofs.ServiceFields
import SharedKey.Proofs.SigningInPlace
import SharedKey.Proofs.SigningSteps
import SharedKey.Proofs.Sorting
import SharedKey.Proofs.TargetText
import SharedKey.Proofs.Text
import SharedKey.Proofs.WrittenPath
