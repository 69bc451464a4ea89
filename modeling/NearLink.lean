import NearLink.Dtap.RecvOrder
import NearLink.Dtap.SendOrder
import NearLink.Dtap.Delivery
import NearLink.Dtap.SchedulerAccount
import NearLink.Dtap.SchedulerCredit
import NearLink.Dtap.SchedulerBusy
import NearLink.Dtap.SchedulerFragments
import NearLink.Dli.Inverse
import NearLink.Dli.CommandRun
import NearLink.Dtap.StreamFull
import NearLink.Dtap.ReportedChannel
import NearLink.Dtap.AckInert
import NearLink.Dtap.SchedulerQuota
import NearLink.Ssap.AccessRun
import NearLink.Ssap.ClientConfig
import NearLink.Ssap.WriteMulti
import NearLink.Ssap.Reply
import NearLink.Ssap.RegistryRun
import NearLink.Ssap.AppLinkRun
import NearLink.Cm.ChannelAgreement
import NearLink.Ssap.TaskReports
import NearLink.Ssap.DiscoveryRun
import NearLink.Cm.PassiveEstablish
import NearLink.Cm.FailedRequest
import NearLink.Cm.ConnectOutcome
import NearLink.Cm.LinkRun
import NearLink.Sm.Abort
import NearLink.Sm.Waiting
import NearLink.Devd.ScanSettles
import NearLink.Devd.ScanLate
import NearLink.Sm.OrderRun
import NearLink.Sdf.TimerRun
import NearLink.Qosm.ChannelAccount
import NearLink.Qosm.LinkQuality
import NearLink.Port.ListAgreement
import NearLink.Devd.AdvFragments
import NearLink.Sm.SecretCheck
import NearLink.Devd.ScanMerge
import NearLink.Devd.AdvReport
import NearLink.Port.ServerUpdate
import NearLink.Hibox.Tlv
import NearLink.Devd.Kmp
import NearLink.Sdf.DList
import NearLink.Qosm.Constraint
import NearLink.Dtap.Corruption
import NearLink.Dtap.ChannelDown
import NearLink.Ssap.HandleAllocator
import NearLink.Ssap.HandleArray
import NearLink.Dtap.RecvBound
