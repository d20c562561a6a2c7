import LibFtp.Client.Operations
import LibFtp.Effect.Footprint
import LibFtp.Control.Reference
import LibFtp.Control.Segmentation
import LibFtp.Control.Ending
import LibFtp.Detail.Script
import LibFtp.Detail.Quiet
import LibFtp.App.Closing
import LibFtp.Effect.Transducer
import LibFtp.Detail.Ascii
import LibFtp.Detail.UploadCoding
import LibFtp.Detail.DownloadCoding
import LibFtp.Detail.TransferLoops
import LibFtp.Detail.RoundTrip
import LibFtp.App.CommandHandler
import LibFtp.Client.SslMode
import LibFtp.Client.Credentials
import LibFtp.Client.Framing
import LibFtp.Client.Record
import LibFtp.Client.Service
import LibFtp.Client.Preliminary
import LibFtp.Client.TypeAgreement
import LibFtp.Control.Footprint
import LibFtp.Detail.DataTraffic
import LibFtp.Client.ControlOnly
import LibFtp.Client.Protected
import LibFtp.Client.Turns
import LibFtp.Client.Hangup
import LibFtp.Client.Order
import LibFtp.Client.Sequencing
import LibFtp.Client.Course
import LibFtp.Client.Cancellation
import LibFtp.Text.Numeral
import LibFtp.Text.Fields
import LibFtp.Text.Strewn
import LibFtp.Control.Grammar
import LibFtp.Client.ReplyStream
import LibFtp.Client.Layering
import LibFtp.Client.StartTls
import LibFtp.Client.Reconnect
import LibFtp.Client.Receiving
import LibFtp.Effect.Agreement
import LibFtp.Client.Listeners
import LibFtp.Detail.Decimal
import LibFtp.Detail.Search
import LibFtp.Client.EpsvReply
import LibFtp.Client.Footprint
import LibFtp.Client.PasvReply
import LibFtp.Client.ActiveEndpoint
import LibFtp.TimeVal
import LibFtp.Client.Logout
import LibFtp.Client.LoginVerdict
import LibFtp.Client.FileListing
import LibFtp.App.Disk
import LibFtp.App.LocalFiles
import LibFtp.App.CommandParser
import LibFtp.Client.FailedTransfer
import LibFtp.Detail.ParseUint
import LibFtp.Effect.Causes
import LibFtp.Detail.Errors
import LibFtp.Control.Errors
import LibFtp.Client.Errors
import LibFtp.Effect.Replay
import LibFtp.Effect.Temporal
import LibFtp.Client.Lifecycle
import LibFtp.Detail.LoopRules
import LibFtp.Effect.Termination
import LibFtp.Detail.Termination
import LibFtp.Control.Termination
import LibFtp.Client.Termination
import LibFtp.Client.DataChannel
import LibFtp.Client.Callback
import LibFtp.Client.Preferences
import LibFtp.Client.DataEndpoint
import LibFtp.Client.Haul
import LibFtp.Client.Delivery
import LibFtp.App.CmdlineInterface
import LibFtp.App.Frame
import LibFtp.App.ClientUse
import LibFtp.App.FileSafety
import LibFtp.App.Exit
