import BucketMap.Main
import BucketMap.Proofs.Writable
import BucketMap.Proofs.ShortNumeral
import BucketMap.Proofs.FloatFormat
import BucketMap.Proofs.DecodedValue
import BucketMap.Proofs.Outcome
import BucketMap.Proofs.Verdict
import BucketMap.Proofs.Grammar
import BucketMap.Proofs.AcceptedFields
import BucketMap.Proofs.AcceptedMaps
import BucketMap.Proofs.Descriptor
import BucketMap.Proofs.AcceptedEntries
import BucketMap.Proofs.AcceptedNodes
import BucketMap.Proofs.AcceptedDocuments
import BucketMap.Proofs.PartitionHosts
import BucketMap.Proofs.BuiltConfig
import BucketMap.Proofs.Lookup
import BucketMap.Proofs.ListedMaps
import BucketMap.Proofs.PrimaryNodes
import BucketMap.Proofs.Buildable
import BucketMap.Proofs.Holder
import BucketMap.Proofs.Newest
import BucketMap.Proofs.KeyPartition
import BucketMap.Proofs.KeyHash
import BucketMap.Proofs.Locate
import BucketMap.Proofs.MissingMap
import BucketMap.Proofs.Renumbering
import BucketMap.Proofs.LowerCase
import BucketMap.Proofs.Pieces
import BucketMap.Proofs.WrittenAddress
import BucketMap.Proofs.NormalForm
import BucketMap.Proofs.StableAddress
import BucketMap.Proofs.LiteralAddress
import BucketMap.Proofs.NodePorts
import BucketMap.Proofs.SharedAddress
import BucketMap.Proofs.DescriptorGrammar
import BucketMap.Proofs.NodeIdentity
import BucketMap.Proofs.WrittenNumeral
import BucketMap.Proofs.NodeDescriptors
import BucketMap.Proofs.ListedPorts
import BucketMap.Proofs.ServicePorts
import BucketMap.Proofs.EntryOrder
import BucketMap.Proofs.ReportedFailures
import BucketMap.Proofs.PrintedLines
import BucketMap.Proofs.OwnerReport
import BucketMap.Proofs.WholeOrdinals
import BucketMap.Proofs.FirstViolation
import BucketMap.Proofs.MasterAddresses
import BucketMap.Proofs.UnknownFields
import BucketMap.Proofs.EncodedText
import BucketMap.Proofs.EncodedDocument
import BucketMap.Proofs.ViewAddress
import BucketMap.Proofs.BuildLog
