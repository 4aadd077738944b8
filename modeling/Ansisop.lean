import Ansisop.Cpu.Alone
import Ansisop.Cpu.Calls
import Ansisop.Cpu.Conformance
import Ansisop.Cpu.Footprint
import Ansisop.Cpu.Interpreter
import Ansisop.Cpu.Machine
import Ansisop.Cpu.Program
import Ansisop.Cpu.Progress
import Ansisop.Cpu.Rebuild
import Ansisop.Cpu.Requests
import Ansisop.Cpu.Runs
import Ansisop.Cpu.Semantics
import Ansisop.Cpu.Session
import Ansisop.Cpu.Stack
import Ansisop.Cpu.State
import Ansisop.Kernel.Conservation
import Ansisop.Kernel.Custody
import Ansisop.Kernel.Deadlock
import Ansisop.Kernel.Dialogue
import Ansisop.Kernel.Dispatch
import Ansisop.Kernel.Exchange
import Ansisop.Kernel.Execution
import Ansisop.Kernel.Fault
import Ansisop.Kernel.Frame
import Ansisop.Kernel.Handback
import Ansisop.Kernel.Handlers
import Ansisop.Kernel.Level
import Ansisop.Kernel.Lifecycle
import Ansisop.Kernel.Link
import Ansisop.Kernel.Multiprog
import Ansisop.Kernel.Mutexes
import Ansisop.Kernel.Names
import Ansisop.Kernel.Order
import Ansisop.Kernel.Ownership
import Ansisop.Kernel.Preemption
import Ansisop.Kernel.Refinement
import Ansisop.Kernel.Script
import Ansisop.Kernel.Semaphores
import Ansisop.Kernel.Shared
import Ansisop.Kernel.Specs
import Ansisop.Kernel.State
import Ansisop.Kernel.Steps
import Ansisop.Kernel.Threads
import Ansisop.Kernel.Waiters
import Ansisop.Kernel.Waiting
import Ansisop.Lib.Activation
import Ansisop.Lib.Blocks
import Ansisop.Lib.Clients
import Ansisop.Lib.Dialog
import Ansisop.Lib.Duet
import Ansisop.Lib.Frames
import Ansisop.Lib.Holes
import Ansisop.Lib.Locks
import Ansisop.Lib.Memory
import Ansisop.Lib.Monitor
import Ansisop.Lib.Register
import Ansisop.Lib.Rotate
import Ansisop.Lib.Run
import Ansisop.Lib.Views
import Ansisop.Lib.Waiting
import Ansisop.Programa.Script
import Ansisop.Sistema.Fetch
import Ansisop.Sistema.Isolation
import Ansisop.Sistema.Serial
import Ansisop.Sockets.Receive
import Ansisop.Sockets.Text
import Ansisop.Sockets.Types
import Ansisop.Sockets.Wire
import Ansisop.Umv.Access
import Ansisop.Umv.Addresses
import Ansisop.Umv.Clients
import Ansisop.Umv.Compact
import Ansisop.Umv.Isolation
import Ansisop.Umv.Resize
import Ansisop.Umv.Search
import Ansisop.Umv.Segments
import Ansisop.Umv.Server
import Ansisop.Umv.Table
