import Vmwgfx.Binding.Evict
import Vmwgfx.Cmdbuf.Revert
import Vmwgfx.Cmdbuf.ShaderMap
import Vmwgfx.Cmdbuf.Staging
import Vmwgfx.Device.Lifecycle
import Vmwgfx.Dma.Backend
import Vmwgfx.Event.Space
import Vmwgfx.Execbuf.Bindings
import Vmwgfx.Execbuf.Bounce
import Vmwgfx.Execbuf.Cache
import Vmwgfx.Execbuf.Containment
import Vmwgfx.Execbuf.Dma
import Vmwgfx.Execbuf.Nodes
import Vmwgfx.Execbuf.Placement
import Vmwgfx.Execbuf.Structure
import Vmwgfx.Fb.Dirty
import Vmwgfx.Fence.Commands
import Vmwgfx.Fence.Consume
import Vmwgfx.Fence.Deadline
import Vmwgfx.Fence.Drain
import Vmwgfx.Fence.GoalIrq
import Vmwgfx.Fence.Signal
import Vmwgfx.Fifo.Copy
import Vmwgfx.Fifo.Restart
import Vmwgfx.Fifo.Space
import Vmwgfx.Fifo.Stuck
import Vmwgfx.GbSurface.Reference
import Vmwgfx.Gmr.Manager
import Vmwgfx.Gmr.Mappings
import Vmwgfx.Gmr.Remap
import Vmwgfx.Irq.Seqno
import Vmwgfx.Irq.Wait
import Vmwgfx.Kms.CursorTruth
import Vmwgfx.Kms.PageFlip
import Vmwgfx.Kms.RoundTrip
import Vmwgfx.Kms.Snoop
import Vmwgfx.Load.Unwind
import Vmwgfx.Locks.Discipline
import Vmwgfx.Marker.Lag
import Vmwgfx.Master.HandOver
import Vmwgfx.Mob.Bind
import Vmwgfx.Mob.Depth
import Vmwgfx.Mob.Otables
import Vmwgfx.Mm.AddrSpace
import Vmwgfx.Object.Create
import Vmwgfx.Object.Entry
import Vmwgfx.Object.FenceEvent
import Vmwgfx.Object.SynccpuTruth
import Vmwgfx.Overlay.Stream
import Vmwgfx.Pins.Independent
import Vmwgfx.Query.Barrier
import Vmwgfx.Lib.Sweep
import Vmwgfx.Reservation.Deadlock
import Vmwgfx.Resource.Balance
import Vmwgfx.Resource.Shortage
import Vmwgfx.Resource.Size
import Vmwgfx.Resource.Transparent
import Vmwgfx.Surface.Images
import Vmwgfx.Surface.Memory
import Vmwgfx.Surface.Sizes
import Vmwgfx.TtmLock.Wakeup
