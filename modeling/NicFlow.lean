import NicFlow.Cluster.Device
import NicFlow.Main
import NicFlow.Service.FlowTable
import NicFlow.Proofs.CacheAcknowledgement
import NicFlow.Proofs.PassFailure
import NicFlow.Proofs.SharedTable
import NicFlow.Proofs.MessageRoundTrip
import NicFlow.Proofs.RuleMessages
import NicFlow.Proofs.TreeEncoding
import NicFlow.Proofs.RequestEncoding
import NicFlow.Proofs.ElementValidation
import NicFlow.Proofs.RuleValidation
import NicFlow.Proofs.DeviceActions
import NicFlow.Proofs.DevicePass
import NicFlow.Proofs.StrictShapes
import NicFlow.Proofs.FanOut
import NicFlow.Proofs.NodeCheck
import NicFlow.Proofs.ClusterCheck
import NicFlow.Proofs.AddressTexts
import NicFlow.Proofs.JsonForms
import NicFlow.Proofs.PayloadForms
import NicFlow.Proofs.UnknownFields
import NicFlow.Proofs.PayloadNulls
import NicFlow.Proofs.RangeOrder
import NicFlow.Proofs.Terminators
import NicFlow.Proofs.ActionAcceptance
import NicFlow.Proofs.PodTranslation
import NicFlow.Proofs.HexTexts
import NicFlow.Proofs.PciAddressTexts
import NicFlow.Proofs.DoubleRounding
import NicFlow.Proofs.FreeFormIntegers
import NicFlow.Proofs.MacAddressTexts
import NicFlow.Proofs.TreeCopies
import NicFlow.Proofs.AddressPayloads
import NicFlow.Proofs.ReadinessSchedule
import NicFlow.Proofs.VfDirectories
import NicFlow.Proofs.FlowTableHistory
import NicFlow.Proofs.CacheHistory
