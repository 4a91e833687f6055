import LineShell.Main
import LineShell.Proofs.Capture
import LineShell.Proofs.Comments
import LineShell.Proofs.Containment
import LineShell.Proofs.Delivery
import LineShell.Proofs.Files.Written
import LineShell.Proofs.Frame
import LineShell.Proofs.Grammar
import LineShell.Proofs.Input.Interactive
import LineShell.Proofs.Input.Interrupts
import LineShell.Proofs.Input.Layout
import LineShell.Proofs.Input.ReadWhole
import LineShell.Proofs.Input.Saved
import LineShell.Proofs.Input.Splitting
import LineShell.Proofs.Input.Stopping
import LineShell.Proofs.Input.Undecodable
import LineShell.Proofs.Quoting
import LineShell.Proofs.Recapture
import LineShell.Proofs.Redirected
import LineShell.Proofs.Resolution
import LineShell.Proofs.Settings.Again
import LineShell.Proofs.Settings.Reporting
import LineShell.Proofs.SingleDelivery
import LineShell.Proofs.Starting
import LineShell.Proofs.Status
import LineShell.Proofs.Targets
import LineShell.Proofs.Tokens
