import DaZeus.Json

/-!
# Configuration values

What a successful `ConfigReader::read` leaves behind, with the fields that the
plugin interface, the plugin monitor and `loadConfig` look at or hand on.
-/

namespace DaZeus

open Library

structure GlobalConfig where
  defaultNickname : ByteString := ascii "DaZeus"
  defaultUsername : ByteString := ascii "DaZeus"
  defaultFullname : ByteString := ascii "DaZeus IRC bot"
  plugindirectory : ByteString := ascii "plugins"
  highlight : ByteString := ascii "\x7d"
  deriving DecidableEq

structure ServerConfig where
  host : ByteString
  port : Int
  priority : Int
  ssl : Bool
  sslVerify : Bool
  deriving DecidableEq

structure NetworkConfig where
  name : ByteString
  displayName : ByteString := []
  nickName : ByteString := []
  userName : ByteString := []
  fullName : ByteString := []
  password : ByteString := []
  autoConnect : Bool
  servers : List ServerConfig := []
  deriving DecidableEq

/-- The variables of a plugin are a `std::map`; here they are listed by name,
each name once. -/
structure PluginConfig where
  name : ByteString
  path : ByteString := []
  executable : ByteString := []
  perNetwork : Bool := false
  parameters : ByteString := []
  config : List (ByteString × ByteString) := []
  deriving DecidableEq

structure SocketConfig where
  type : ByteString := []
  host : ByteString := []
  port : Nat := 0
  path : ByteString := []
  deriving DecidableEq

/-- `SocketConfig::toString`; an unknown type fails the assertion at its end. -/
def SocketConfig.toString (socket : SocketConfig) : Option ByteString :=
  if socket.type = ascii "unix" then
    some (ascii "unix:" ++ socket.path)
  else if socket.type = ascii "tcp" then
    some (ascii "tcp:" ++ socket.host ++ ascii ":" ++ decimal socket.port)
  else
    none

structure DatabaseConfig where
  type : ByteString := []
  deriving DecidableEq

structure ConfigReader where
  networks : List NetworkConfig := []
  plugins : List PluginConfig := []
  sockets : List SocketConfig := []
  globalConfig : GlobalConfig := {}
  databaseConfig : DatabaseConfig := {}
  isRead : Bool := false
  deriving DecidableEq

end DaZeus
