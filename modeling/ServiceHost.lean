import ServiceHost.Metering.EntityMerge
import ServiceHost.DataExchange.EcpAmqpLogic
import ServiceHost.DataExchange.WsLogicBase
import ServiceHost.DataExchange.IccpReconnect
import ServiceHost.DataExchange.IccpImportLock
import ServiceHost.DataExchange.IccpReport
import ServiceHost.DataExchange.PoisonMessages
import ServiceHost.TimeSeriesXml.ImportResponse
import ServiceHost.TimeSeriesXml.ResponseLevel
import ServiceHost.DataExchange.StandardWs
import ServiceHost.DataExchange.AzureExport
import ServiceHost.DataExchange.AzureImport
import ServiceHost.DataExchange.EcpAmqpImport
import ServiceHost.DataExchange.CompelloImport
import ServiceHost.DataExchange.EcpMessage
import ServiceHost.DataExchange.NpAuctionLogic
import ServiceHost.DataExchange.NpAuctionExportModule
import ServiceHost.DataExchange.IccpImportModule
import ServiceHost.DataExchange.ExportConservation
import ServiceHost.DataExchange.ExportFinality
import ServiceHost.DataExchange.Export
import ServiceHost.DataExchange.ClaimCheck
import ServiceHost.DataExchange.ImportMessageConservation
import ServiceHost.Library.Overlay
import ServiceHost.Time.DatabaseString
import ServiceHost.TimeSeries.TimeSeriesAge
import ServiceHost.TimeSeries.ImportConversion
import ServiceHost.TimeSeries.ImportStorage
import ServiceHost.Metering.MeteringOrderLogic
import ServiceHost.TimeSeries.ProtectCorrectedValues
import ServiceHost.TimeSeries.AppendOrigSeries
import ServiceHost.TimeSeries.OracleTimeSeriesAdapter
import ServiceHost.Interop.EnvironmentSetup
import ServiceHost.Interop.ExpandText
import ServiceHost.DataExchange.ExportPeek
import ServiceHost.DataExchange.StandardMsmqImport
import ServiceHost.DataExchange.GetExport
import ServiceHost.Time.LocalDays
import ServiceHost.Time.MonthArithmetic
import ServiceHost.Time.DiffUnits
import ServiceHost.Time.FirstFullWeek
import ServiceHost.Time.Trim
import ServiceHost.Time.WeekNumbers
import ServiceHost.Time.Pdtime
import ServiceHost.Time.TimePeriodSplit
import ServiceHost.Time.Intersection
import ServiceHost.TimeSeries.CanonicalAge
import ServiceHost.TimeSeries.TrimOlder
import ServiceHost.Time.DstRules
import ServiceHost.Time.ConfiguredCalendar
import ServiceHost.TimeSeries.QualityStatus
import ServiceHost.TimeSeriesXml.ParseItem
import ServiceHost.TimeSeries.SeriesClone
import ServiceHost.DataExchange.RunnerResolver
import ServiceHost.DataExchange.EcpAmqpExport
import ServiceHost.Configuration.CfgReader
import ServiceHost.Configuration.StringExpander
import ServiceHost.Time.TimeText
import ServiceHost.Messaging.GS2Survival
import ServiceHost.Metering.AgreementKeys
import ServiceHost.Metering.AgreementRegisters
import ServiceHost.Metering.RegisterMerge
import ServiceHost.DataExchange.EventHandlerManager
import ServiceHost.DataExchange.Shutdown
import ServiceHost.DataExchange.ExportFailover
import ServiceHost.DataExchange.ContractRequests
import ServiceHost.DataExchange.MsmqPeek
import ServiceHost.DataExchange.NewAuctions
import ServiceHost.DataExchange.PropertyRuleSetMapper
import ServiceHost.Time.XmlDateTime
import ServiceHost.Time.PowelFormat
import ServiceHost.Data.MessageLogQueryBuilder
import ServiceHost.TimeSeries.SplitterOperation
import ServiceHost.Messaging.GS2ExportService
import ServiceHost.Xml.XmlUtil
import ServiceHost.TimeSeries.NameGenerator
import ServiceHost.Process.ServiceHost
import ServiceHost.DataExchange.LocalFileshare
import ServiceHost.DataExchange.MsmqRemove
import ServiceHost.DataExchange.ImportIteration
