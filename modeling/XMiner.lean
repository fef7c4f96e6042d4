import XMiner.Failover.Model
import XMiner.Failover.Invariant
import XMiner.Failover.Listener
import XMiner.Failover.Cascade
import XMiner.Failover.Stop
import XMiner.Donate.Model
import XMiner.Donate.Invariant
import XMiner.Donate.Listener
import XMiner.Donate.Nested
import XMiner.Donate.Proxy
import XMiner.Donate.Params
import XMiner.Donate.Login
import XMiner.Dataset.Wrapper
import XMiner.Dataset.Startup
import XMiner.Dataset.Config
import XMiner.Opencl.VerthashRunner
import XMiner.Opencl.Upload
