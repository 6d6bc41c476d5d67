import X5MaxDevice.Base.BoundedPrinting
import X5MaxDevice.Base.Calendar
import X5MaxDevice.Base.Cycle
import X5MaxDevice.Base.Decoding
import X5MaxDevice.Base.Double
import X5MaxDevice.Base.History
import X5MaxDevice.Base.Interference
import X5MaxDevice.Base.Java
import X5MaxDevice.Base.JavaFloat
import X5MaxDevice.Base.Mean
import X5MaxDevice.Base.Memory
import X5MaxDevice.Base.ModifiedUtf8
import X5MaxDevice.Base.Numerals
import X5MaxDevice.Base.Refinement
import X5MaxDevice.Base.Retry
import X5MaxDevice.Base.Transitions
import X5MaxDevice.Ril.DataCalls
import X5MaxDevice.Ril.EccList
import X5MaxDevice.Ril.RadioPower
import X5MaxDevice.Ril.EccPublication
import X5MaxDevice.Ril.EccStability
import X5MaxDevice.Ril.EmergencyDial
import X5MaxDevice.Ril.EmergencyTotality
import X5MaxDevice.Ril.Responses
import X5MaxDevice.Ril.RequestLedger
import X5MaxDevice.Ril.EccDocument
import X5MaxDevice.Gps.Session
import X5MaxDevice.Gps.Wakelock
import X5MaxDevice.Gps.StatusReports
import X5MaxDevice.Gps.StartHandshake
import X5MaxDevice.Gps.StopWait
import X5MaxDevice.Gps.Reader
import X5MaxDevice.Gps.Framing
import X5MaxDevice.Gps.SatelliteList
import X5MaxDevice.Gps.Gsv
import X5MaxDevice.Gps.SatelliteReport
import X5MaxDevice.Gps.SatelliteIds
import X5MaxDevice.Gps.Epochs
import X5MaxDevice.Gps.UsedInFix
import X5MaxDevice.Gps.FixFreshness
import X5MaxDevice.Gps.Coordinates
import X5MaxDevice.Gps.DateUpdate
import X5MaxDevice.Gps.TokenSpans
import X5MaxDevice.Gps.TokenIntegers
import X5MaxDevice.Gps.Timestamps
import X5MaxDevice.Gps.Delivery
import X5MaxDevice.Gps.AtTest
import X5MaxDevice.Gps.TestBounds
import X5MaxDevice.Gps.Decimation
import X5MaxDevice.Gps.Codec
import X5MaxDevice.Gps.AgpsMessages
import X5MaxDevice.Gps.MnldMessages
import X5MaxDevice.Gps.NiText
import X5MaxDevice.Gps.MnlProperty
import X5MaxDevice.Gps.Measurements
import X5MaxDevice.Gps.GpsTime
import X5MaxDevice.Gps.EpoWorker
import X5MaxDevice.Gps.EpoAssembly
import X5MaxDevice.Gps.EpoRetries
import X5MaxDevice.Gps.EpoTimes
import X5MaxDevice.Gps.EpoConfig
import X5MaxDevice.Gps.EpoExpiry
import X5MaxDevice.Gps.SyncLock
import X5MaxDevice.Gps.ConditionFlag
import X5MaxDevice.Gps.MessageContents
import X5MaxDevice.Gps.MnldDelivery
import X5MaxDevice.Gps.FixGating
import X5MaxDevice.Gps.AtCommands
import X5MaxDevice.Gps.AtAnswers
import X5MaxDevice.Gps.AtProgress
import X5MaxDevice.Gps.Sending
import X5MaxDevice.Gps.EpoRequests
import X5MaxDevice.Gps.LocationFile
import X5MaxDevice.Fingerprint.Hal
import X5MaxDevice.Fingerprint.EnrollmentTarget
import X5MaxDevice.Fingerprint.EnrollmentCompletion
import X5MaxDevice.Fingerprint.FailedEnrollment
import X5MaxDevice.Fingerprint.EventThread
import X5MaxDevice.Fingerprint.Authentication
import X5MaxDevice.Fingerprint.Enumeration
import X5MaxDevice.Mrdump.Status
import X5MaxDevice.Mrdump.ClearThenGet
import X5MaxDevice.Mrdump.StatusParsing
import X5MaxDevice.Romstats.Reporting
import X5MaxDevice.Romstats.OptOut
import X5MaxDevice.Romstats.FirstSync
import X5MaxDevice.Romstats.RateLimit
import X5MaxDevice.Ygps.NmeaParser
import X5MaxDevice.Ygps.ParserTotality
import X5MaxDevice.Ygps.GsvMessages
import X5MaxDevice.Ygps.GsvNotification
import X5MaxDevice.Ygps.SatelliteKeys
import X5MaxDevice.Ygps.ClientSocket
import X5MaxDevice.Ygps.GsaRecords
import X5MaxDevice.Ygps.PmtkFraming
import X5MaxDevice.Ygps.ReplyReassembly
import X5MaxDevice.Ygps.MnlSettings
import X5MaxDevice.Ygps.NmeaRecording
import X5MaxDevice.Ygps.MeanTtff
import X5MaxDevice.Ygps.HalSatellites
import X5MaxDevice.Ygps.AutoTest
import X5MaxDevice.Ygps.ForcedStop
import X5MaxDevice.Ygps.TestOverlap
import X5MaxDevice.Ygps.LostRestart
import X5MaxDevice.WpaSupplicant.SinkChannel
import X5MaxDevice.WpaSupplicant.TestMode
import X5MaxDevice.WpaSupplicant.LinkReport
import X5MaxDevice.WpaSupplicant.StatisticsReport
