import GeoBench.Main
import GeoBench.Proofs.Deployment.FailFast
import GeoBench.Proofs.Deployment.StartGate
import GeoBench.Proofs.Readiness.PollTrace
import GeoBench.Proofs.Table.ValueCell
import GeoBench.Proofs.Machine.Place
import GeoBench.Proofs.Machine.Files
import GeoBench.Proofs.Machine.Confined
import GeoBench.Proofs.Evaluation.AggregateTrace
import GeoBench.Proofs.Deployment.Footprint
import GeoBench.Proofs.Deployment.Generated
import GeoBench.Proofs.Deployment.Install
import GeoBench.Proofs.Deployment.Clean
import GeoBench.Proofs.Deployment.VarEntries
import GeoBench.Proofs.Deployment.WorkloadOutput
import GeoBench.Proofs.Deployment.WorkloadRun
import GeoBench.Proofs.Machine.Moves
import GeoBench.Proofs.Machine.Console
import GeoBench.Proofs.Deployment.Collection
import GeoBench.Proofs.Deployment.History
import GeoBench.Proofs.Deployment.DryRun
import GeoBench.Proofs.Deployment.Moves
import GeoBench.Proofs.Deployment.DryResults
import GeoBench.Proofs.Deployment.ProfileNeed
import GeoBench.Proofs.Deployment.Registrations
import GeoBench.Proofs.Deployment.Listings
import GeoBench.Proofs.Deployment.Machines
import GeoBench.Proofs.Machine.LineReading
import GeoBench.Proofs.CommandLine.Workload
import GeoBench.Proofs.Cloud.PlainFields
import GeoBench.Proofs.Deployment.Addresses
import GeoBench.Proofs.Deployment.VarPlaces
import GeoBench.Proofs.Deployment.WholeFiles
import GeoBench.Proofs.Table.DataRows
import GeoBench.Proofs.Readiness.Attempts
import GeoBench.Proofs.Machine.Route
import GeoBench.Proofs.Deployment.RecordPlaces
import GeoBench.Proofs.Table.DigitCells
import GeoBench.Proofs.Evaluation.ReportForms
import GeoBench.Proofs.Shell.Calls
