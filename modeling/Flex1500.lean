import Flex1500.TxControlTrace
import Flex1500.TxSession
import Flex1500.TxPaths
import Flex1500.StationOwner
import Flex1500.HttpRequest
import Flex1500.Protocol
import Flex1500.Api
import Flex1500.ApiEffect
import Flex1500.Lib.Attempt
import Flex1500.TxLifecycle
import Flex1500.TxAudioStream
import Flex1500.UsbRx
import Flex1500.UsbTransmit
import Flex1500.UsbDrain
import Flex1500.UsbTrace
import Flex1500.UsbCleanup
import Flex1500.UsbKeying
import Flex1500.UsbStart
import Flex1500.UsbSafety
import Flex1500.UsbRuns
import Flex1500.Lib.Requests
import Flex1500.UsbTransfers
import Flex1500.UsbBooks
import Flex1500.UsbAccounting
import Flex1500.DaemonTx
import Flex1500.Daemon
import Flex1500.DaemonPaths
import Flex1500.DaemonOwnership
import Flex1500.DaemonDeadlines
import Flex1500.IqFrame
import Flex1500.Publisher
import Flex1500.PublisherLaw
import Flex1500.RtlTcp
import Flex1500.IqClients
import Flex1500.ReceiveStreams
import Flex1500.ReceiveIsolation
import Flex1500.RtlTcpStream
import Flex1500.Lib.FrameReader
import Flex1500.IqDecoders
import Flex1500.DaemonSettings
import Flex1500.ApiOutcome
import Flex1500.TxMoveLaws
import Flex1500.TxDeadlines
import Flex1500.DaemonBlocks
import Flex1500.Lib.Tenure
import Flex1500.ApiLeases
import Flex1500.DaemonStation
import Flex1500.DaemonLeases
import Flex1500.DaemonRecovery
import Flex1500.DaemonPreemption
import Flex1500.EmissionContainment
import Flex1500.LeaseExpiry
import Flex1500.Lib.CNumber
import Flex1500.NumericSettings
import Flex1500.Lib.CSearch
import Flex1500.Lib.JsonValue
import Flex1500.TxProfile
import Flex1500.HttpHeaders
import Flex1500.Lib.CppText
import Flex1500.CompanionSession
import Flex1500.CompanionWire
import Flex1500.SoapyStation
import Flex1500.SoapyReceive
import Flex1500.SoapyTransmit
import Flex1500.Lib.Window
import Flex1500.Resampling
import Flex1500.IqRingQueue
import Flex1500.Lib.DelayLine
import Flex1500.Lib.CFloat
import Flex1500.TxDsp
import Flex1500.AudioRing
import Flex1500.Lib.CFile
import Flex1500.Config
import Flex1500.ConfigRoundTrip
import Flex1500.Lib.TextSize
import Flex1500.StatusPages
import Flex1500.ResponseSize
import Flex1500.Lib.Transducer
import Flex1500.TxSamples
import Flex1500.TxSamplesLaw
import Flex1500.TxSchedule
import Flex1500.TxArming
import Flex1500.DaemonMicrophone
import Flex1500.DaemonInterlock
import Flex1500.UsbRelays
import Flex1500.UsbRelayLaw
import Flex1500.CompanionCalls
import Flex1500.DaemonRequests
