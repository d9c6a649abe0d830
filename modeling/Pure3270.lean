import Pure3270.Foundations.StateRelation
import Pure3270.Foundations.MeasuredLoop
import Pure3270.Foundations.Lockstep
import Pure3270.Foundations.Escapes
import Pure3270.Foundations.Failures
import Pure3270.Foundations.Runs
import Pure3270.Foundations.SortedSet
import Pure3270.Foundations.WriteLog
import Pure3270.Foundations.CellRuns
import Pure3270.Foundations.Ledger
import Pure3270.Foundations.Tokenizer
import Pure3270.Emulation.FieldAttributes
import Pure3270.Emulation.Addressing
import Pure3270.Emulation.ExtendedPosition
import Pure3270.Emulation.ScreenBuffer
import Pure3270.Emulation.ScreenInvariant
import Pure3270.Emulation.FieldWrites
import Pure3270.Emulation.Ebcdic
import Pure3270.Protocol.ParserState
import Pure3270.Protocol.OrderHandlers
import Pure3270.Protocol.DataStreamParser
import Pure3270.Protocol.HandlerSteps
import Pure3270.Protocol.ParserLoop
import Pure3270.Protocol.RecordSteps
import Pure3270.Protocol.ParserErrors
import Pure3270.Protocol.ParserSafety
import Pure3270.Protocol.OrderFraming
import Pure3270.Protocol.AddressLaw
import Pure3270.Protocol.WriteRollback
import Pure3270.Protocol.TruncatedOrders
import Pure3270.Protocol.KeyboardRestore
import Pure3270.Emulation.ScreenOperations
import Pure3270.Emulation.FieldSpans
import Pure3270.Emulation.ModifiedData
import Pure3270.Protocol.DataTransparency
import Pure3270.Protocol.FieldBlindness
import Pure3270.Protocol.BulkMode
import Pure3270.Protocol.CurrentFields
import Pure3270.Protocol.FieldLookups
import Pure3270.Protocol.BulkAgreement
import Pure3270.Protocol.TelnetStream
import Pure3270.Protocol.TelnetEncoding
import Pure3270.Protocol.Tn3270eHeader
import Pure3270.Protocol.SequenceNumbers
import Pure3270.Protocol.Negotiator
import Pure3270.Protocol.TelnetOptions
import Pure3270.Protocol.Tn3270eSubnegotiation
import Pure3270.Protocol.NegotiationFlags
import Pure3270.Protocol.HostWill
import Pure3270.Protocol.Negotiation
import Pure3270.Protocol.TraceInference
import Pure3270.Protocol.ModeCoherence
import Pure3270.Protocol.FunctionsBooks
import Pure3270.Protocol.SubnegotiationDispatch
import Pure3270.Protocol.FunctionsBookkeeping
import Pure3270.Protocol.FunctionActivity
import Pure3270.Protocol.SnaSession
import Pure3270.Protocol.OptionExchange
import Pure3270.Protocol.RequestCorrelation
import Pure3270.Protocol.Tn3270Handler
import Pure3270.Protocol.RecordHandover
import Pure3270.Protocol.RecordReception
import Pure3270.Protocol.SendData
import Pure3270.Protocol.ScreenChanges
import Pure3270.Protocol.WriteRecords
import Pure3270.Protocol.FieldStartCells
import Pure3270.Protocol.BindImage
import Pure3270.Protocol.SharedScreen
import Pure3270.Protocol.AddressingCoherence
import Pure3270.Protocol.OutgoingSubnegotiations
import Pure3270.Protocol.OrderSequences
import Pure3270.Session.LocalEditing
import Pure3270.Session.ProtectedCells
import Pure3270.Session.EditedFields
import Pure3270.Session.ReportedEdits
import Pure3270.Session.LuLuSession
import Pure3270.Session.MirroredContents
import Pure3270.Session.FittedContents
import Pure3270.Session.EnterRecord
import Pure3270.Session.FieldPainting
import Pure3270.Session.BackTabbing
import Pure3270.Session.TabCycle
import Pure3270.Session.ScriptedText
import Pure3270.Session.ResourceFile
import Pure3270.Foundations.TextLines
import Pure3270.Foundations.RowLines
import Pure3270.Emulation.Tabbing
import Pure3270.Emulation.ScreenText
import Pure3270.Session.P3270Client
import Pure3270.Session.ClientCursor
import Pure3270.Session.ClientReading
import Pure3270.Session.Keys
import Pure3270.Session.KeyboardLock
import Pure3270.Foundations.Shelves
import Pure3270.Foundations.ObjectHeap
import Pure3270.Foundations.GrowingLists
import Pure3270.Printing.CircuitBreaker
import Pure3270.Printing.HalfOpenPeriods
import Pure3270.Printing.RecoveryRuns
import Pure3270.Printing.ConnectionPool
import Pure3270.Printing.PoolLending
import Pure3270.Printing.PoolAccounting
import Pure3270.Printing.PrinterSessionManager
import Pure3270.Printing.PrinterSession
import Pure3270.Printing.PrintRouting
import Pure3270.Printing.FlowAccounting
import Pure3270.Printing.TranslatorNumbers
import Pure3270.Foundations.Mailboxes
import Pure3270.Printing.StatusReporter
import Pure3270.Printing.StatusHistory
import Pure3270.Printing.NotificationQueue
import Pure3270.Foundations.Trials
import Pure3270.Printing.ErrorHandler
import Pure3270.Printing.ErrorStatistics
import Pure3270.Protocol.NegotiatorBlindness
import Pure3270.Trace.TraceFile
import Pure3270.Trace.PrintedTrace
import Pure3270.Trace.Replayer
import Pure3270.Trace.LiveSession
import Pure3270.Trace.ReplayedSession
import Pure3270.Protocol.HeaderCodec
import Pure3270.Protocol.AddressEncoding
import Pure3270.Transfer.IndFileMessage
import Pure3270.Transfer.IndFile
import Pure3270.Transfer.Download
import Pure3270.Transfer.Upload
import Pure3270.Protocol.StructuredFieldLengths
import Pure3270.Foundations.Residues
import Pure3270.Foundations.CyclicSuccessor
import Pure3270.Protocol.RepeatToAddress
import Pure3270.Emulation.FieldLayout
import Pure3270.Emulation.FieldObjects
import Pure3270.Emulation.TrackedFields
import Pure3270.Protocol.EraseUnprotected
import Pure3270.Foundations.Marks
import Pure3270.Protocol.PresentationSpace
import Pure3270.Protocol.PresentedFields
import Pure3270.Protocol.PresentedRecords
import Pure3270.Protocol.CachedLookup
import Pure3270.Foundations.Base64
import Pure3270.Emulation.Snapshot
import Pure3270.Emulation.RestoredScreens
import Pure3270.Emulation.SnapshotComparison
import Pure3270.Emulation.AddressingConversion
import Pure3270.Emulation.CodecPages
import Pure3270.Emulation.RenderedText
import Pure3270.Emulation.ExtendedScreenBuffer
import Pure3270.Printing.PrinterBuffer
import Pure3270.Printing.PrintedJobs
import Pure3270.Printing.PrintedText
import Pure3270.Protocol.SequenceWindow
import Pure3270.Protocol.HandlerState
import Pure3270.Protocol.StateEvents
import Pure3270.Protocol.StateRecovery
import Pure3270.Protocol.BindImageField
import Pure3270.Protocol.StrippedStream
import Pure3270.Protocol.DecodedBytes
import Pure3270.Protocol.HandlerModes
import Pure3270.Protocol.StashedPayload
import Pure3270.Protocol.StreamEntryPoints
import Pure3270.Protocol.ExtendedFields
import Pure3270.Protocol.NewEnviron
import Pure3270.Protocol.Vt100
import Pure3270.Protocol.Vt100Chunks
import Pure3270.Protocol.Vt100Safety
import Pure3270.Protocol.LastFieldStart
import Pure3270.Protocol.FieldTargets
import Pure3270.Protocol.NegotiationRetries
import Pure3270.Session.SessionSafety
import Pure3270.Protocol.ResilientParse
import Pure3270.Protocol.StateCallbacks
import Pure3270.Foundations.Handles
import Pure3270.Session.Connections
import Pure3270.Foundations.Terminals
import Pure3270.Protocol.Vt100Programs
