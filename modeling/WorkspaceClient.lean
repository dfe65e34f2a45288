import WorkspaceClient.Main
import WorkspaceClient.Proofs.Backend
import WorkspaceClient.Proofs.Encoding
import WorkspaceClient.Proofs.Filter
import WorkspaceClient.Proofs.Filter.Reprinting
import WorkspaceClient.Proofs.Rows.Agreement
import WorkspaceClient.Proofs.SessionRace
import WorkspaceClient.Proofs.Timestamp
import WorkspaceClient.Proofs.Platform.History
import WorkspaceClient.Proofs.Command.Replay
import WorkspaceClient.Proofs.Command.Verified
import WorkspaceClient.Proofs.Command.Person
import WorkspaceClient.Proofs.Command.Filters
import WorkspaceClient.Proofs.Command.Saving
import WorkspaceClient.Proofs.Command.Validation
import WorkspaceClient.Proofs.Glob.Leaks
import WorkspaceClient.Proofs.SessionFile.Exposure
import WorkspaceClient.Proofs.Workspace
import WorkspaceClient.Proofs.SessionFile.Torn
import WorkspaceClient.Proofs.Rows.Complete
import WorkspaceClient.Proofs.Output.Table
import WorkspaceClient.Proofs.Command.View
import WorkspaceClient.Proofs.Dashboard.Targets
import WorkspaceClient.Proofs.Failure.Causes
import WorkspaceClient.Proofs.Command.Direct
