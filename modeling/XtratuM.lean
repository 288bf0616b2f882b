import XtratuM.Library.Reachability
import XtratuM.Library.BoundedFifo
import XtratuM.Library.Ring
import XtratuM.Kernel.Base
import XtratuM.Kernel.KThread
import XtratuM.Kernel.DynList
import XtratuM.Sched.Cyclic
import XtratuM.Sched.TemporalIsolation
import XtratuM.Guest.Access
import XtratuM.Arch.Segments
import XtratuM.Arch.RingProtection
import XtratuM.Objects.CommPorts
import XtratuM.Objects.Transfers
import XtratuM.Objects.PortEffects
import XtratuM.Objects.PortOwnership
import XtratuM.Objects.MessagePool
import XtratuM.Objects.InternalErrors
import XtratuM.Objects.QueuingFifo
import XtratuM.Objects.ReceiverTables
import XtratuM.Objects.SamplingStatus
import XtratuM.Objects.ReceiverCounts
import XtratuM.Hypercalls.LifeCycle
import XtratuM.Hypercalls.Multicall
import XtratuM.Hypercalls.MulticallNesting
import XtratuM.Kernel.KTimer
import XtratuM.Sched.ExecutionTimer
import XtratuM.Library.Window
import XtratuM.Objects.LogStream
import XtratuM.Objects.LogRecovery
import XtratuM.Library.Tables
import XtratuM.Parser.Document
import XtratuM.Parser.Ipvi
import XtratuM.Hypercalls.RaiseIpvi
import XtratuM.Kernel.PhysMm
import XtratuM.Library.Ranks
import XtratuM.Parser.MemoryLayout
import XtratuM.Library.Painting
import XtratuM.Objects.ControlTables
import XtratuM.Objects.Endpoints
import XtratuM.Objects.PendingBits
import XtratuM.Sched.Maintenance
import XtratuM.Library.Runs
import XtratuM.Parser.IoPorts
import XtratuM.Hypercalls.IrqVectors
import XtratuM.Sched.WakeUps
import XtratuM.Parser.Channels
import XtratuM.Kernel.UserPages
import XtratuM.Parser.Separation
import XtratuM.Boot.Lzss
import XtratuM.Boot.PartitionImages
import XtratuM.Boot.ReservedMemory
import XtratuM.Hypercalls.MulticallSequence
import XtratuM.Hypercalls.Confinement
import XtratuM.Mmu.PageUpdates
import XtratuM.Library.BitMasks
import XtratuM.Mmu.EntryInstalls
import XtratuM.Library.Tracked
import XtratuM.Objects.PortAccesses
import XtratuM.Objects.RefusedCreation
import XtratuM.Objects.SamplingMessages
import XtratuM.Parser.CyclicPlans
import XtratuM.Parser.HealthMonitor
import XtratuM.Hypercalls.PlanRequests
import XtratuM.Sched.NextActivation
import XtratuM.Kernel.AreaLookup
import XtratuM.Objects.AreaCopies
import XtratuM.Library.ByteFiles
import XtratuM.Boot.Containers
import XtratuM.Boot.ContainerRoundTrip
import XtratuM.Boot.SealedFiles
import XtratuM.Boot.XefImages
import XtratuM.Kernel.TimerQueue
import XtratuM.Kernel.HwTimers
import XtratuM.Sched.ClockRequests
import XtratuM.Sched.ClockTraversal
import XtratuM.Sched.ExecutionClock
import XtratuM.Arch.GuestDescriptors
import XtratuM.Hypercalls.MulticallAccesses
import XtratuM.Library.SlotCache
import XtratuM.Mmu.FailedUpdates
import XtratuM.Objects.PortBitmaps
import XtratuM.Boot.ImageCompression
import XtratuM.Boot.Literals
import XtratuM.Boot.XefRoundTrip
import XtratuM.Library.TruncatedQuotients
import XtratuM.Kernel.TickConversions
import XtratuM.Objects.Checksums
import XtratuM.Objects.TraceWriting
import XtratuM.Mmu.PageCounters
import XtratuM.Kernel.ListDeques
import XtratuM.Mmu.AddressSearches
import XtratuM.Boot.OfferedBytes
import XtratuM.Hypercalls.LazyBatch
import XtratuM.Library.RangeCopies
import XtratuM.Kernel.MemCpy
import XtratuM.Mmu.TableWrites
import XtratuM.Mmu.GuestTables
import XtratuM.Mmu.EntryCounts
import XtratuM.Mmu.WritableTables
import XtratuM.Mmu.ExactCounters
import XtratuM.Library.GuardedUses
import XtratuM.Guest.CheckedRanges
import XtratuM.Objects.PortDereferences
import XtratuM.Objects.RecordDereferences
import XtratuM.Objects.SystemDereferences
import XtratuM.Hypercalls.ObjectCalls
import XtratuM.Library.BlockHash
import XtratuM.Boot.Digests
import XtratuM.Objects.MemBlocks
import XtratuM.Objects.StoredStreams
import XtratuM.Library.AssuredAccesses
import XtratuM.Mmu.TableSetup
import XtratuM.Mmu.SetupFrames
import XtratuM.Mmu.SetupSteps
import XtratuM.Mmu.SetupWrites
import XtratuM.Mmu.SetupTables
import XtratuM.Faults.HealthMonitor
import XtratuM.Faults.Traps
import XtratuM.Faults.EventLogs
import XtratuM.Faults.Actions
import XtratuM.Faults.Escalation
import XtratuM.Faults.Containment
import XtratuM.Faults.Isolation
