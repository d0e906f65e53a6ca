import MatchVet.T10.GradeHistory
import MatchVet.T10.ReadBack
import MatchVet.T15.MissingEvidence
import MatchVet.T15.PolicyRoundTrip
import MatchVet.T14.MarketAgreement
import MatchVet.Causal.OwnerLineage
import MatchVet.F01.SlateAgreement
import MatchVet.Workload.CutoffLaw
import MatchVet.T07.Conflicts
import MatchVet.Artifacts.CrashSafety
import MatchVet.Research.SingleUse
import MatchVet.Runs.Resumption
import MatchVet.T10.Hierarchy
import MatchVet.F06.TieBreak
import MatchVet.F06.PayloadRoundTrip
import MatchVet.T10.Supersession
import MatchVet.T10.Closing
import MatchVet.T10.Coherence
import MatchVet.T10.EvidenceSet
import MatchVet.T10.Withdrawal
import MatchVet.T15.MatchAudit
import MatchVet.T18.Folds
import MatchVet.T18.Calibration
import MatchVet.Workload.LookbackWindow
import MatchVet.Causal.EventInterval
import MatchVet.Causal.Der
import MatchVet.Causal.TrustChain
import MatchVet.Artifacts.ManifestCodec
import MatchVet.T10.Noninterference
import MatchVet.T15.BetterEvidence
import MatchVet.Foundation.Binary64
import MatchVet.T07.Preference
import MatchVet.T07.CutoffHistory
import MatchVet.Workload.OrderLaw
import MatchVet.F01.InputOrder
import MatchVet.F01.Codec
import MatchVet.T09.Corroboration
import MatchVet.Causal.CanonicalBytes
import MatchVet.T11.ScoreSurface
import MatchVet.Ingestion.FootballData
import MatchVet.Ingestion.ResumedDownload
import MatchVet.Ingestion.TransportBudget
import MatchVet.T05.Blindness
import MatchVet.T05.Settled
import MatchVet.T05.Withdrawal
import MatchVet.T18.Resume
