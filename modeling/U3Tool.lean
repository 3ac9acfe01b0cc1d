import U3Tool.PartitionTable
import U3Tool.LoadGuarantees
import U3Tool.SizeRequest
import U3Tool.PasswordGuard
import U3Tool.UsbPipe
import U3Tool.StackBytes
import U3Tool.WireFormat
import U3Tool.PropertyPages
import U3Tool.UsbPhases
import U3Tool.ActionRuns
import U3Tool.ActionFailures
import U3Tool.ResetSecurity
import U3Tool.Reports
import U3Tool.ReportRuns
import U3Tool.PageConsumers
import U3Tool.Posix.Getopt
import U3Tool.Main
import U3Tool.Confirmation
import U3Tool.ActionPrompts
import U3Tool.MainGuard
import U3Tool.Posix.Lines
import U3Tool.SecureInput
import U3Tool.PromptSessions
import U3Tool.PromptTermination
import U3Tool.NewPassword
import U3Tool.ConfirmInput
import U3Tool.DumpReport
import U3Tool.ErrorBuffer
import U3Tool.Bytes.Unicode
import U3Tool.PasswordHash
import U3Tool.Progress
import U3Tool.Posix.Regex
import U3Tool.Bytes.Strtoul
import U3Tool.UsbOpen
import U3Tool.UsbSelector
import U3Tool.Digest.BlockHash
import U3Tool.Digest.Sine
import U3Tool.Digest.Rfc1321
import U3Tool.Md5
import U3Tool.Md5Process
import U3Tool.Md5Stream
import U3Tool.Md5Digests
import U3Tool.Interaction.Protocol
import U3Tool.Interaction.Simulation
import U3Tool.Interaction.Vouching
import U3Tool.Subsystem
import U3Tool.SubsystemSafety
import U3Tool.CommandGuard
import U3Tool.UsbLifecycle
import U3Tool.UsbWire
import U3Tool.SgSubsystem
import U3Tool.Transparency
import U3Tool.BulkOnlyDevice
import U3Tool.TransportAgreement
import U3Tool.ExitStatus
import U3Tool.DiscLoad
import U3Tool.Interaction.Retention
import U3Tool.ConfirmedLoss
import U3Tool.Interaction.Machine
import U3Tool.PasswordLock
import U3Tool.PasswordLifecycle
