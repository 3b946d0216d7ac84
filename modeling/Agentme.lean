import Agentme.Net.Addr
import Agentme.Net.Subnet
import Agentme.Net.SubnetRuns
import Agentme.Net.RateLimiter
import Agentme.Net.GlobalLimiter
import Agentme.Net.ConnectionTracker
import Agentme.Net.Multiaddr
import Agentme.Net.Bootstrap
import Agentme.Net.Ipv6Literal
import Agentme.Plugin.Error
import Agentme.Plugin.Provider
import Agentme.Plugin.Action
import Agentme.Plugin.Service
