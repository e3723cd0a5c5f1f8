import SafeSignalTrader.RunSemantics
import SafeSignalTrader.OrderedDict
import SafeSignalTrader.DomainEnums
import SafeSignalTrader.PythonString
import SafeSignalTrader.DomainModels
import SafeSignalTrader.QueueMemory
import SafeSignalTrader.QueueJobMoves
import SafeSignalTrader.QueueInvariant
import SafeSignalTrader.QueueLease
import SafeSignalTrader.QueueAttempts
import SafeSignalTrader.QueueFencing
import SafeSignalTrader.QueueRecovery
import SafeSignalTrader.QueueSubmission
import SafeSignalTrader.DecimalRounding
import SafeSignalTrader.RiskEngine
import SafeSignalTrader.RiskExposure
import SafeSignalTrader.SourceRegistry
import SafeSignalTrader.ParserRegistry
import SafeSignalTrader.IngestionPipeline
import SafeSignalTrader.IngestionHistory
import SafeSignalTrader.BacktrackingRegex
import SafeSignalTrader.PythonText
import SafeSignalTrader.GenericStructuredParser
import SafeSignalTrader.ParserFields
import SafeSignalTrader.EntryPlanner
import SafeSignalTrader.ProtectionPlanner
import SafeSignalTrader.EntryProtection
import SafeSignalTrader.ConflictResolver
import SafeSignalTrader.ConflictRuns
import SafeSignalTrader.ExtremalFold
import SafeSignalTrader.ProtectionTightening
import SafeSignalTrader.RiskAgreement
import SafeSignalTrader.UpperCase
import SafeSignalTrader.DictTotals
import SafeSignalTrader.MockBinance
import SafeSignalTrader.MockRuns
import SafeSignalTrader.MockPositions
import SafeSignalTrader.MockReduceOnly
import SafeSignalTrader.MockReconciliation
import SafeSignalTrader.MockLedger
import SafeSignalTrader.MockProtections
import SafeSignalTrader.MockIsolation
import SafeSignalTrader.JsonText
import SafeSignalTrader.TradingProfiles
import SafeSignalTrader.ConfigDetermination
import SafeSignalTrader.FirstMatch
import SafeSignalTrader.LineScanning
import SafeSignalTrader.AsciiText
import SafeSignalTrader.ParserReading
import SafeSignalTrader.FormatReading
import SafeSignalTrader.IngestionFailures
import SafeSignalTrader.LateEntryGate
import SafeSignalTrader.ParsedSignals
import SafeSignalTrader.ClientOrderIds
import SafeSignalTrader.RiskSizing
import SafeSignalTrader.RiskMonotonicity
import SafeSignalTrader.DecimalContext
import SafeSignalTrader.DecimalSizing
import SafeSignalTrader.DecimalArithmetic
import SafeSignalTrader.DecimalApprovals
import SafeSignalTrader.LossBudget
import SafeSignalTrader.SizingLimits
import SafeSignalTrader.WordLines
import SafeSignalTrader.WordScanning
import SafeSignalTrader.FormatLines
import SafeSignalTrader.LineBasedFormat
import SafeSignalTrader.ConflictSets
import SafeSignalTrader.MockLifeCycle
import SafeSignalTrader.MockClientIds
import SafeSignalTrader.MockStopChanges
import SafeSignalTrader.QueueFirstService
import SafeSignalTrader.CostBasis
import SafeSignalTrader.MockCostBasis
import SafeSignalTrader.ProtectionSides
import SafeSignalTrader.VersionedKeys
import SafeSignalTrader.VersionedLookup
import SafeSignalTrader.LeaseBoard
import SafeSignalTrader.QueueRefinement
import SafeSignalTrader.LeaseDraining
import SafeSignalTrader.QueueDraining
import SafeSignalTrader.EventLog
import SafeSignalTrader.MockOrderLog
import SafeSignalTrader.ParserLayout
import SafeSignalTrader.TradeLifeCycle
import SafeSignalTrader.HexLiterals
import SafeSignalTrader.UuidText
import SafeSignalTrader.DemoApi
import SafeSignalTrader.DemoQueue
import SafeSignalTrader.DemoReadings
import SafeSignalTrader.DecimalAgreement
import SafeSignalTrader.MockDecimalFills
import SafeSignalTrader.MockSymbolSplit
import SafeSignalTrader.ExchangeRules
import SafeSignalTrader.DecimalErrors
import SafeSignalTrader.MockDecimalBooks
import SafeSignalTrader.MockDecimalReadings
import SafeSignalTrader.MockDecimalSplit
