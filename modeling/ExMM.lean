import ExMM.Library.Run
import ExMM.Library.Log
import ExMM.Library.Bytes
import ExMM.Library.Words
import ExMM.Library.Search
import ExMM.Library.Locks
import ExMM.Model.Platform
import ExMM.Model.BreakPoint
import ExMM.Model.Registry
import ExMM.Model.Machine
import ExMM.Model.Reference
import ExMM.Model.Interrupts
import ExMM.Model.Arm
import ExMM.Model.FieldHelper
import ExMM.Model.SwitchField
import ExMM.Model.Resources
import ExMM.Model.Threads
import ExMM.Registry.Resolution
import ExMM.Registry.Lifetimes
import ExMM.IoSpace.Laws
import ExMM.IoSpace.Calls
import ExMM.IoSpace.Pages
import ExMM.Machine.Faults
import ExMM.Machine.Effects
import ExMM.Machine.SingleAccess
import ExMM.Machine.Refinement
import ExMM.Machine.DeviceModel
import ExMM.Machine.Protections
import ExMM.Machine.HandlerCalls
import ExMM.Machine.Instructions
import ExMM.Machine.Restarts
import ExMM.Machine.Restoration
import ExMM.Machine.Passive
import ExMM.Machine.Atomicity
import ExMM.Interrupts.Direct
import ExMM.Interrupts.Handlers
import ExMM.Interrupts.Outcomes
import ExMM.Arm.Breakpoints
import ExMM.Arm.WritablePages
import ExMM.Dsl.Selectors
import ExMM.Dsl.Dispatch
import ExMM.Dsl.Chains
import ExMM.Resources.Ownership
import ExMM.Resources.Construction
import ExMM.Machine.HookTypes
import ExMM.Machine.ReadModifyWrite
import ExMM.Machine.Removal
import ExMM.Threads.Locking
import ExMM.Threads.Moves
import ExMM.Threads.Triggers
import ExMM.Filters.Registration
import ExMM.Filters.Chain
import ExMM.Filters.Overlap
import ExMM.Library.Simulation
import ExMM.Live.Bare
import ExMM.Live.Alone
import ExMM.Live.Blind
import ExMM.Live.Driver
import ExMM.Model.FifoTelemetry
import ExMM.Devices.FifoTelemetry
import ExMM.Devices.LatchedTime
import ExMM.Live.Objects
import ExMM.Model.TimeController
import ExMM.Devices.TimeController
import ExMM.Devices.TimerCommands
import ExMM.Devices.TimerInterrupts
import ExMM.Live.Passive
import ExMM.Devices.RandomEventCounter
