import TcmuRunner.Iovec
import TcmuRunner.Device.State
import TcmuRunner.Device.Recovery
import TcmuRunner.Device.Shutdown
import TcmuRunner.Device.Schedule
import TcmuRunner.Device.Join
import TcmuRunner.Device.Lock
import TcmuRunner.Device.LostJoin
import TcmuRunner.Device.Progress
import TcmuRunner.Device.Quiesce
import TcmuRunner.Device.Open
import TcmuRunner.Device.Design
import TcmuRunner.Device.Reopen
import TcmuRunner.Scsi.Buf
import TcmuRunner.Compare
import TcmuRunner.Scsi.Cdb
import TcmuRunner.Scsi.Sense
import TcmuRunner.Scsi.ModeSense
import TcmuRunner.Scsi.ModeSelect
import TcmuRunner.Scsi.Truncation
import TcmuRunner.Scsi.RoundTrip
import TcmuRunner.Scsi.BlockDescriptor
import TcmuRunner.Scsi.AllPages
import TcmuRunner.Scsi.Inquiry
import TcmuRunner.Scsi.Page83
import TcmuRunner.Scsi.VpdPages
