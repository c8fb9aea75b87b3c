import Godspeed.Machine.SendResult
import Godspeed.Machine.Answer
import Godspeed.Ipc.MessageRing
import Godspeed.Authority.Conserve
import Godspeed.Authority.Directory
import Godspeed.Authority.Transfer
import Godspeed.Memory.Pool
import Godspeed.Loader.Safety
import Godspeed.Gsfs.Repair
import Godspeed.Gsfs.Handles
import Godspeed.Gsfs.Append
import Godspeed.Tcp.Closing
import Godspeed.Tcp.Receiving
import Godspeed.Tcp.Stranded
import Godspeed.Tcp.Outsider
import Godspeed.Dns.Resolver
import Godspeed.Pm.Boot
import Godspeed.Pm.Cleanup
import Godspeed.Pm.Keep
import Godspeed.Pm.Plan
import Godspeed.Pm.Forward
import Godspeed.Sdk.Delivery
import Godspeed.Sdk.Replies
import Godspeed.Sdk.Held
import Godspeed.Time.Clock
import Godspeed.Loader.Cost
import Godspeed.Authority.Privileges
import Godspeed.Machine.RoundRobin
import Godspeed.Shell.Glob
import Godspeed.Record.Sort
