import DaZeus.Database.Interrupted
import DaZeus.Database.Namespaces
import DaZeus.Database.PostgresUpgrade
import DaZeus.Database.MongoPermissions
import DaZeus.PluginMonitor.Shutdown
import DaZeus.PluginMonitor.Wakeup
import DaZeus.PluginMonitor.Ledger
import DaZeus.PluginMonitor.Conform
import DaZeus.PluginMonitor.Restart
import DaZeus.PluginMonitor.Rejected
import DaZeus.PluginMonitor.Signals
import DaZeus.PluginMonitor.Backoff
import DaZeus.PluginMonitor.Returning
import DaZeus.PluginMonitor.Substitution
import DaZeus.PluginComm.Output
import DaZeus.PluginComm.Authorisation
import DaZeus.PluginComm.Init
import DaZeus.PluginComm.Close
import DaZeus.PluginComm.Accesses
import DaZeus.PluginComm.EventFrames
import DaZeus.PluginComm.Descriptors
import DaZeus.PluginComm.Tally
import DaZeus.PluginComm.Tokens
import DaZeus.PluginComm.EventAccesses
import DaZeus.PluginComm.Subscriptions
import DaZeus.PluginComm.Lifetime
import DaZeus.PluginComm.Permissions
import DaZeus.PluginComm.Broadcast
import DaZeus.PluginComm.Identity
import DaZeus.Bot.Address
import DaZeus.Bot.Reload
import DaZeus.Bot.Networks
import DaZeus.Bot.Reconciliation
import DaZeus.Bot.Lives
import DaZeus.Bot.Passes
import DaZeus.ConfigFile.Callbacks
import DaZeus.ConfigFile.Contents
import DaZeus.Database.Interrupted
import DaZeus.JsonWrap
