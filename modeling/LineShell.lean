import LineShell.Main
import LineShell.Proofs.Arguments
import LineShell.Proofs.ByteWords
import LineShell.Proofs.DyingDiagnostics
import LineShell.Proofs.DyingDispatches
import LineShell.Proofs.DyingOutput
import LineShell.Proofs.FailedStarts
import LineShell.Proofs.FailingFlushes
import LineShell.Proofs.Flags
import LineShell.Proofs.Journal
import LineShell.Proofs.LaunchedWords
import LineShell.Proofs.Launching
import LineShell.Proofs.Progress
import LineShell.Proofs.ReadingBack
import LineShell.Proofs.Reaping
import LineShell.Proofs.Recording
import LineShell.Proofs.Registrations
import LineShell.Proofs.Routing
import LineShell.Proofs.ShortWrites
import LineShell.Proofs.Waiting
import LineShell.Proofs.WorkingDirectory
