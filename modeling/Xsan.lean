import Xsan.Lib.ByteOrder
import Xsan.Lib.DLinked
import Xsan.Lib.AssocList
import Xsan.Lib.Ring
import Xsan.Lib.Block
import Xsan.Common.Error
import Xsan.Common.List
import Xsan.Common.Hashtable
import Xsan.Utils.Memory
import Xsan.Utils.MemoryMgr
import Xsan.Common.RingBuffer
import Xsan.Metadata.Store
import Xsan.Storage.Volume
import Xsan.Storage.VolumeManager
import Xsan.Storage.Replicas
import Xsan.Storage.ReplicatedWrite
import Xsan.Storage.ReplicaRead
import Xsan.Storage.LbaMap
import Xsan.Network.Protocol
import Xsan.Network.NodeComm
import Xsan.Network.Message
import Xsan.Utils.Config
import Xsan.Utils.ConfigLoad
import Xsan.Io.Request
import Xsan.Storage.SingleIo
import Xsan.Storage.ReplicaRequest
import Xsan.Lib.Search
import Xsan.Utils.StringUtils
import Xsan.Storage.Placement
import Xsan.Common.HashtableIter
import Xsan.Utils.SeedNodes
import Xsan.Lib.Mutex
import Xsan.Storage.LoadMetadata
import Xsan.Lib.JsonC
import Xsan.Lib.HexText
import Xsan.Lib.JsonText
import Xsan.Storage.VolumeJson
import Xsan.Utils.ConfigSave
import Xsan.Utils.StrCaseCmp
import Xsan.Lib.InetPton
import Xsan.Network.Socket
import Xsan.Network.EventLoop
import Xsan.Common.ErrorMap
import Xsan.Network.Stream
import Xsan.Network.EventPoll
import Xsan.Lib.Rename
import Xsan.Utils.Log
import Xsan.Network.Connections
import Xsan.Lib.Bracket
import Xsan.Main.Cli
import Xsan.Main.NodeStartup
