import RemoteVehicle.Runs
import RemoteVehicle.ByteWords
import RemoteVehicle.HeldCommand
import RemoteVehicle.TickClock
import RemoteVehicle.Framing
import RemoteVehicle.CanFrame
import RemoteVehicle.ActMotor
import RemoteVehicle.ActServo
import RemoteVehicle.ActSensors
import RemoteVehicle.ActState
import RemoteVehicle.ActUdsDiag
import RemoteVehicle.ActCan
import RemoteVehicle.ActLoop
import RemoteVehicle.ActSpec
import RemoteVehicle.ActFrameProofs
import RemoteVehicle.ActCommandProofs
import RemoteVehicle.ActWatch
import RemoteVehicle.ActStopProofs
import RemoteVehicle.ActLossProofs
import RemoteVehicle.BodyState
import RemoteVehicle.BodyControl
import RemoteVehicle.BodyUds
import RemoteVehicle.BodyCan
import RemoteVehicle.BodySpec
import RemoteVehicle.BodyCommandProofs
import RemoteVehicle.Mailbox
import RemoteVehicle.ActMailbox
import RemoteVehicle.BodyMailbox
import RemoteVehicle.MailboxProofs
import RemoteVehicle.MainState
import RemoteVehicle.MainTransmit
import RemoteVehicle.MainDcm
import RemoteVehicle.MainCom
import RemoteVehicle.MainRouting
import RemoteVehicle.MainDoip
import RemoteVehicle.MainTcp
import RemoteVehicle.MainLoop
import RemoteVehicle.MainSpec
import RemoteVehicle.MainFrameProofs
import RemoteVehicle.RemoteLossProofs
import RemoteVehicle.GatewayOutputProofs
import RemoteVehicle.DiagModeProofs
import RemoteVehicle.RoutingGateProofs
import RemoteVehicle.SegmentationProofs
import RemoteVehicle.AnswerLog
import RemoteVehicle.UdsFrame
import RemoteVehicle.UdsAnswer
import RemoteVehicle.UdsTunnelProofs
import RemoteVehicle.DiagAckProofs
import RemoteVehicle.DeferredCloseProofs
import RemoteVehicle.ReadLog
import RemoteVehicle.MainReads
import RemoteVehicle.ReadBoundsProofs
import RemoteVehicle.UdsTrace
import RemoteVehicle.UdsMainTrace
import RemoteVehicle.UdsResponseProofs
import RemoteVehicle.BodyFrameProofs
import RemoteVehicle.FailHistory
import RemoteVehicle.TroubleCodeProofs
import RemoteVehicle.LinkDtcProofs
import RemoteVehicle.BeatGauge
import RemoteVehicle.HeartbeatProofs
import RemoteVehicle.CollisionStopProofs
import RemoteVehicle.SessionGateProofs
import RemoteVehicle.Coalescing
import RemoteVehicle.CollisionEventProofs
import RemoteVehicle.SpeedReportProofs
import RemoteVehicle.AvailabilityProofs
import RemoteVehicle.RoutineScheduleProofs
import RemoteVehicle.BigEndian
import RemoteVehicle.PcBackend
import RemoteVehicle.PcControlProofs
import RemoteVehicle.SpeedChainProofs
import RemoteVehicle.PacketOrderProofs
import RemoteVehicle.CollisionCodecProofs
import RemoteVehicle.RemoteGateProofs
import RemoteVehicle.PcPage
import RemoteVehicle.KeyReleaseProofs
import RemoteVehicle.Dialogue
import RemoteVehicle.PcDiagnostics
import RemoteVehicle.ScanAgreementProofs
import RemoteVehicle.StreamReader
import RemoteVehicle.MediaDoip
import RemoteVehicle.KeyedTable
import RemoteVehicle.Episodes
import RemoteVehicle.MediaUds
import RemoteVehicle.MediaTcp
import RemoteVehicle.ResyncProofs
import RemoteVehicle.DtcStoreProofs
import RemoteVehicle.DtcReportProofs
import RemoteVehicle.MediaServer
import RemoteVehicle.SessionTableProofs
import RemoteVehicle.Acquisition
import RemoteVehicle.Calendar
import RemoteVehicle.Raising
import RemoteVehicle.MediaTrigger
import RemoteVehicle.RecorderReleaseProofs
import RemoteVehicle.EventCycleProofs
import RemoteVehicle.Handover
import RemoteVehicle.MediaRecorder
import RemoteVehicle.ClipContinuityProofs
import RemoteVehicle.CoastProofs
import RemoteVehicle.Signal
import RemoteVehicle.EncoderWindowProofs
import RemoteVehicle.Blocks
import RemoteVehicle.SteeringAngleProofs
import RemoteVehicle.Waveform
import RemoteVehicle.ActWaveform
import RemoteVehicle.OutputWaveformProofs
import RemoteVehicle.BodyCalls
import RemoteVehicle.BodyLamps
import RemoteVehicle.LampDiagnosisProofs
import RemoteVehicle.BlinkProofs
import RemoteVehicle.Debounce
import RemoteVehicle.ButtonDebounceProofs
import RemoteVehicle.Hysteresis
import RemoteVehicle.WarningLevelProofs
import RemoteVehicle.BodyWarning
import RemoteVehicle.WarningFreshnessProofs
import RemoteVehicle.BuzzerProofs
import RemoteVehicle.BodyControlRuns
import RemoteVehicle.DangerLedProofs
import RemoteVehicle.ReadDtcProofs
import RemoteVehicle.TxLengthProofs
import RemoteVehicle.AckAddressProofs
import RemoteVehicle.HeaderCodecProofs
import RemoteVehicle.TurnDisplayProofs
import RemoteVehicle.MediaTranscode
import RemoteVehicle.ClipSyncProofs
import RemoteVehicle.EncoderRateProofs
import RemoteVehicle.MediaHistory
import RemoteVehicle.AccidentListProofs
import RemoteVehicle.AccidentPageProofs
import RemoteVehicle.DropQueue
import RemoteVehicle.EventStreamProofs
import RemoteVehicle.MediaHealth
import RemoteVehicle.HealthProofs
import RemoteVehicle.MediaUdp
import RemoteVehicle.DiscoveryProofs
import RemoteVehicle.Exchange
import RemoteVehicle.NackStormProofs
import RemoteVehicle.MotionChain
import RemoteVehicle.MotionProofs
import RemoteVehicle.PolledTimer
import RemoteVehicle.MainPeriodProofs
import RemoteVehicle.Retention
import RemoteVehicle.MediaContinuous
import RemoteVehicle.ContinuousProofs
import RemoteVehicle.PcFullScan
import RemoteVehicle.Moments
import RemoteVehicle.VehicleServers
import RemoteVehicle.FullScanProofs
import RemoteVehicle.ClearAllProofs
import RemoteVehicle.PcPreDrive
import RemoteVehicle.PreDriveProofs
import RemoteVehicle.DiagnosticPageProofs
