import Pisshoff.Audit
import Pisshoff.Protocol
import Pisshoff.State
import Pisshoff.Connection
import Pisshoff.Event
import Pisshoff.System
import Pisshoff.AuditTrail
import Pisshoff.Credentials
import Pisshoff.Usernames
import Pisshoff.Sessions
import Pisshoff.Sequential
import Pisshoff.Serialization
import Pisshoff.Independence
import Pisshoff.Interference
import Pisshoff.Writer
import Pisshoff.Shutdown
import Pisshoff.Progress
