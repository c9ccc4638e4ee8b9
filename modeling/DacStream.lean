import DacStream.Device.Trial
import DacStream.Session.Bench
import DacStream.Proofs.SessionCustody
import DacStream.Proofs.SessionFidelity
import DacStream.Proofs.DrainBarrier
import DacStream.Proofs.HandleLifetime
import DacStream.Proofs.HandleBacking
import DacStream.Proofs.PayloadOwnership
import DacStream.Proofs.PayloadAgreement
import DacStream.Proofs.SideBySide
import DacStream.Proofs.SessionsSideBySide
import DacStream.Proofs.SlotDates
import DacStream.Proofs.StaleSamples
import DacStream.Proofs.FaultNotices
import DacStream.Proofs.WriterInformed
import DacStream.Proofs.ConversionRules
import DacStream.Proofs.UnindexedSamples
import DacStream.Proofs.RunEndings
import DacStream.Proofs.SessionPasts
import DacStream.Proofs.StoppedSessions
import DacStream.Proofs.TransferAnswers
import DacStream.Proofs.DeviceClock
import DacStream.Proofs.SlotAccounts
import DacStream.Proofs.StarvationEpisodes
import DacStream.Proofs.RejectedRequests
import DacStream.Proofs.BenchRuns
import DacStream.Proofs.SharedDevice
import DacStream.Proofs.SteadyState
import DacStream.Proofs.FreeingSlots
import DacStream.Proofs.RefusedReleases
import DacStream.Proofs.SlotInWork
import DacStream.Proofs.CheckedHandover
import DacStream.Proofs.CheckedWriting
import DacStream.Proofs.WriteFragments
import DacStream.Proofs.DirectAccess
import DacStream.Proofs.CaptureLog
import DacStream.Proofs.KeyValueOptions
import DacStream.Proofs.OptionDocuments
